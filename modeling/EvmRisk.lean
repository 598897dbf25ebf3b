import EvmRisk.Text.Basic
import EvmRisk.Text.Lowercase
import EvmRisk.Text.Quoted
import EvmRisk.Text.Hex
import EvmRisk.Decimal
import EvmRisk.Abi
import EvmRisk.Address
import EvmRisk.Assessment
import EvmRisk.Batch
import EvmRisk.CommandLine
import EvmRisk.Main
import EvmRisk.Proofs.Scoring.Account
import EvmRisk.Proofs.Scoring.Monotone
import EvmRisk.Proofs.Scoring.Ladders
import EvmRisk.Proofs.Scoring.Embedded
import EvmRisk.Proofs.Scoring.Blind
import EvmRisk.Proofs.Scoring.Agreement
import EvmRisk.Proofs.Text.Hexadecimal
import EvmRisk.Proofs.Scoring.Presentation
import EvmRisk.Proofs.Json.Spelling
import EvmRisk.Proofs.Json.Numerals
import EvmRisk.Proofs.Json.Lexing
import EvmRisk.Proofs.Json.Tree
import EvmRisk.Proofs.Json.Values
import EvmRisk.Proofs.Json.Records
import EvmRisk.Proofs.Document.Interface
import EvmRisk.Proofs.Document.Snapshot
import EvmRisk.Proofs.Document.Report
import EvmRisk.Proofs.Batch.Counting
import EvmRisk.Proofs.Scoring.Informing
import EvmRisk.Proofs.Scoring.Indifference
import EvmRisk.Proofs.Json.Strictness
import EvmRisk.Proofs.Document.Entries
import EvmRisk.Proofs.Document.Replacement
import EvmRisk.Proofs.Batch.Sequence
import EvmRisk.Proofs.Scoring.Signs
import EvmRisk.Proofs.Scoring.Danger
import EvmRisk.Proofs.Scoring.Owner
import EvmRisk.Proofs.Json.Fields
import EvmRisk.Proofs.Document.Grammar
import EvmRisk.Proofs.Scoring.Proxy
import EvmRisk.Proofs.Scoring.Evidence
import EvmRisk.Proofs.Scoring.Filing
import EvmRisk.Proofs.Scoring.Framing
import EvmRisk.Proofs.Text.NormalForm
import EvmRisk.Proofs.Text.Addresses
import EvmRisk.Proofs.Json.Layout
import EvmRisk.Proofs.Batch.Stream
import EvmRisk.Proofs.Scoring.Scanning
import EvmRisk.Proofs.Scoring.Keywords
import EvmRisk.Proofs.Scoring.Naming
import EvmRisk.Proofs.Scoring.Partition
import EvmRisk.Proofs.Configuration.Variables
import EvmRisk.Proofs.Configuration.Arguments
import EvmRisk.Proofs.Configuration.Precedence
