import EvmRisk.Abi
import EvmRisk.Address
import EvmRisk.Signature

/-!
# Snapshots

All that is known about a contract at one moment: its code, its interface, what a block explorer
says about it, and for tokens what the market says. Each part may be missing. `Snapshot.read?`
reads the document of a snapshot; an interface that cannot be read counts as missing, whatever
else is wrong spoils the document.
-/

namespace EvmRisk

open Json (Node Value)

/-- What a block explorer says about a contract, in its own words. -/
structure Explorer where
  /-- Whether the source is there for everybody to read. -/
  isVerified : Bool
  /-- Whether it takes the contract for a proxy. -/
  proxy : Bool
  /-- The address of the code behind a proxy. -/
  implementation : Option String
  /-- The address that may replace that code. -/
  proxyAdmin : Option String
  /-- The address that made the contract. -/
  contractCreator : Option String
  /-- The name of the contract. -/
  contractName : Option String
  /-- The source. -/
  sourceCode : Option String
  deriving DecidableEq, Repr

namespace Explorer

/-- The address in a field, if it holds one other than zero. -/
def knownAddress? (field : Option String) : Option Address :=
  (field.bind fun raw => Address.ofText? raw.toList).filter fun a => !a.isZero

/-- The address that may replace the code. -/
def admin? (e : Explorer) : Option Address := knownAddress? e.proxyAdmin

/-- The address of the code behind a proxy. -/
def implementation? (e : Explorer) : Option Address := knownAddress? e.implementation

/-- The names of the fields, in their order. -/
def fieldNames : List String :=
  ["isVerified", "proxy", "implementation", "proxyAdmin", "contractCreator", "contractName",
    "sourceCode"]

/-- The explorer's part of a document. All fields may be missing. -/
def ofNode? (n : Node) : Option Explorer := do
  let field ← n.fields? fieldNames 0
  let isVerified ← Node.withDefault false Node.toBool? (field "isVerified")
  let proxy ← Node.withDefault false Node.toBool? (field "proxy")
  let implementation ← Node.optional Node.toString? (field "implementation")
  let proxyAdmin ← Node.optional Node.toString? (field "proxyAdmin")
  let contractCreator ← Node.optional Node.toString? (field "contractCreator")
  let contractName ← Node.optional Node.toString? (field "contractName")
  let sourceCode ← Node.optional Node.toString? (field "sourceCode")
  some ⟨isVerified, proxy, implementation, proxyAdmin, contractCreator, contractName, sourceCode⟩

/-- The explorer's part as a value. -/
def toValue (e : Explorer) : Value :=
  .object [
    ("isVerified", .bool e.isVerified),
    ("proxy", .bool e.proxy),
    ("implementation", .ofString? e.implementation),
    ("proxyAdmin", .ofString? e.proxyAdmin),
    ("contractCreator", .ofString? e.contractCreator),
    ("contractName", .ofString? e.contractName),
    ("sourceCode", .ofString? e.sourceCode)]

end Explorer

/-- What the market says about a token. -/
structure Market where
  /-- The depth of the pool in dollars. -/
  liquidityUsd : Option Float
  /-- How many hold the token; less than `2 ^ 64`. -/
  holderCount : Option Nat
  /-- What the ten largest holders have, in per cent. -/
  top10HolderPercent : Option Float
  deriving DecidableEq

namespace Market

/-- The names of the fields, in their order. -/
def fieldNames : List String := ["liquidityUsd", "holderCount", "top10HolderPercent"]

/-- The bound on how many hold a token. -/
def holderBound : Nat := UInt64.size

/-- The market's part of a document. All fields may be missing. -/
def ofNode? (n : Node) : Option Market := do
  let field ← n.fields? fieldNames 0
  let liquidityUsd ← Node.optional Node.toFloat? (field "liquidityUsd")
  let holderCount ← Node.optional (Node.toNatBelow? holderBound) (field "holderCount")
  let top10HolderPercent ← Node.optional Node.toFloat? (field "top10HolderPercent")
  some ⟨liquidityUsd, holderCount, top10HolderPercent⟩

/-- A number, or no value. -/
def floatValue (x : Option Float) : Value := (x.map Value.ofFloat).getD .null

/-- A count, or no value. -/
def countValue (n : Option Nat) : Value := (n.map Value.ofNat).getD .null

/-- The market's part as a value. -/
def toValue (m : Market) : Value :=
  .object [
    ("liquidityUsd", floatValue m.liquidityUsd),
    ("holderCount", countValue m.holderCount),
    ("top10HolderPercent", floatValue m.top10HolderPercent)]

end Market

/-- All that is known about a contract at one moment. -/
structure Snapshot where
  bytecode : Option Bytecode := none
  abi : Option Abi := none
  explorer : Option Explorer := none
  market : Option Market := none

namespace Snapshot

/-- A snapshot made of its parts, with the code as a text that is not normalised yet. -/
def ofParts (bytecode : Option String) (abi : Option Abi) (explorer : Option Explorer) :
    Snapshot :=
  { bytecode := bytecode.bind Bytecode.ofRaw?, abi, explorer }

/-- Whether there is code. -/
def hasBytecode (s : Snapshot) : Bool := s.bytecode.isSome

/-- Whether there is an interface with something in it. -/
def hasAbi (s : Snapshot) : Bool := s.abi.any fun abi => !abi.isEmpty

/-- The names of the functions in lowercase; none where there is no interface. -/
def functionNames (s : Snapshot) : List String := (s.abi.getD []).functionNames

/-! ### From documents -/

/-- The names of the fields, in their order. -/
def fieldNames : List String := ["bytecode", "abi", "explorerInfo", "market"]

/-- The snapshot of a document in which at most `levels` brackets are open at once. All fields may
be missing. -/
def ofNode? (levels : Nat) (n : Node) : Option Snapshot := do
  let field ← n.fields? fieldNames 0
  let bytecode ← Node.optional Node.toString? (field "bytecode")
  let abi ← Node.optional (Value.ofNode? (levels - 1)) (field "abi")
  let explorer ← Node.optional Explorer.ofNode? (field "explorerInfo")
  let market ← Node.optional Market.ofNode? (field "market")
  some ⟨bytecode.bind Bytecode.ofRaw?, abi.bind Abi.ofValue?, explorer, market⟩

/-- The snapshot of a text. -/
def read? (text : String) : Option Snapshot :=
  (Node.read? text.toList).bind (ofNode? Json.depthBound)

end Snapshot

end EvmRisk
