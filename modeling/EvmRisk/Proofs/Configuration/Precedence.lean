import EvmRisk.Proofs.Batch.Sequence
import EvmRisk.Proofs.Configuration.Arguments
import EvmRisk.Proofs.Configuration.Variables

/-!
# What takes precedence

A batch is written as its environment and its arguments want. A switch is on if either of them turns
it on, the format is that of the arguments, and what is logged is up to the environment
(`CommandLine.Effective`). If one of them is meaningless, the first of the switches in the
environment, then the format, is complained of, and nothing is printed and no file is read
(`CommandLine.configured`).
-/

namespace EvmRisk

/-- The word for a format. -/
def OutputFormat.word : OutputFormat → String
  | .text => "text"
  | .json => "json"

/-- `fault` says that `word` is no format. -/
structure Fault.BlamesFormat (fault : Fault) (word : String) : Prop where
  code_eq : fault.code = "CFG_INVALID_VALUE"
  message_eq : fault.message = "Unknown output format: " ++ normalWord word

namespace CommandLine

open Settings Request

/-! ### The settings for a batch -/

/-- Both switches in `environment` are legible, and every word for a format in `arguments` is one.
-/
structure Clear (environment : String → Option String) (arguments : List String) : Prop where
  legible : Settings.Legible environment
  format : ∀ word, GivesFormat arguments word → ∃ f : OutputFormat, normalWord word = f.word

/-- `settings` are those that `environment` and `arguments` make together. -/
structure Effective (environment : String → Option String) (arguments : List String)
    (settings : Settings) : Prop where
  pretty_iff : settings.pretty = true ↔
    Says environment prettyVariable true ∨ "--pretty" ∈ arguments
  batchSummary_iff : settings.batchSummary = true ↔
    Says environment summaryVariable true ∨ "--summary" ∈ arguments
  format_of_given : ∀ word, GivesFormat arguments word → normalWord word = settings.format.word
  format_of_not_given : (∀ word, ¬ GivesFormat arguments word) → settings.format = .text
  logFilter : Logs environment settings.logFilter

/-- The fault that is complained of, if an environment or options are meaningless. -/
inductive FirstFault (environment : String → Option String) (arguments : List String)
    (fault : Fault) : Prop
  | pretty {value : String} (h : Meaningless environment prettyVariable value)
      (blames : fault.Blames prettyVariable value)
  | summary {value : String} {b : Bool} (first : Says environment prettyVariable b)
      (h : Meaningless environment summaryVariable value)
      (blames : fault.Blames summaryVariable value)
  | format {word : String} (legible : Settings.Legible environment)
      (given : GivesFormat arguments word) (strange : ∀ f : OutputFormat, normalWord word ≠ f.word)
      (blames : fault.BlamesFormat word)

variable {environment : String → Option String} {arguments options : List String}
  {asked : AnalyzeOptions} {base settings : Settings} {fault : Fault}

/-- The effective settings of an environment and of arguments if both are clear, and else the first
fault. -/
inductive Settled (environment : String → Option String) (arguments : List String) :
    Except Fault Settings → Prop
  | clear {settings : Settings} (clear : Clear environment arguments)
      (effective : Effective environment arguments settings) :
      Settled environment arguments (.ok settings)
  | faulty {fault : Fault} (first : FirstFault environment arguments fault) :
      Settled environment arguments (.error fault)

variable {files others : String → Option String} {periodStart periodEnd : Time.Instant}

end CommandLine

end EvmRisk
