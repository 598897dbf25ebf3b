import EvmRisk.Fault
import EvmRisk.Text.Basic
import EvmRisk.Text.Lowercase
import EvmRisk.Text.Quoted

/-!
# Settings

How reports are written. The settings come from variables of the environment; a variable that is
not set leaves the default. The words of a variable are taken without the blanks around them and in
any case, and a word that is not known is a fault.
-/

namespace EvmRisk

/-- How a report is written. -/
inductive OutputFormat where
  | text
  | json
  deriving DecidableEq, Repr

/-- How reports are written, and what is logged. -/
structure Settings where
  /-- How a report is written. -/
  format : OutputFormat := .text
  /-- Whether a document has a line for every part. -/
  pretty : Bool := false
  /-- Whether statistics follow the reports. -/
  batchSummary : Bool := false
  /-- What is logged. -/
  logFilter : String := "warn"
  deriving DecidableEq, Repr

/-- A text in the form in which words are compared: without blanks around it, in small letters. -/
def normalWord (s : String) : String := String.ofList (Text.asciiLower (Text.trim s.toList))

/-- The format that a word names. -/
def OutputFormat.ofWord (s : String) : Except Fault OutputFormat :=
  match normalWord s with
  | "text" => .ok text
  | "json" => .ok json
  | word => .error (.invalidSetting ("Unknown output format: " ++ word))

namespace Settings

/-- The variable that says what is logged. -/
def logVariable : String := "CONTRACT_RISK_LOG"

/-- The variable that says whether documents have a line for every part. -/
def prettyVariable : String := "CONTRACT_RISK_PRETTY"

/-- The variable that says whether statistics follow the reports. -/
def summaryVariable : String := "CONTRACT_RISK_SUMMARY"

/-- The words for yes. -/
def yesWords : List String := ["1", "true", "yes", "on"]

/-- The words for no. -/
def noWords : List String := ["0", "false", "no", "off"]

/-- The truth value of a variable that is set. -/
def switch (name value : String) : Except Fault Bool :=
  let word := normalWord value
  if yesWords.contains word then .ok true
  else if noWords.contains word then .ok false
  else
    .error <| .invalidSetting <|
      name ++ " must be a boolean, got " ++ String.ofList (Text.quoted word.toList)

/-- The truth value of a variable; no if it is not set. -/
def switchOf (lookup : String → Option String) (name : String) : Except Fault Bool :=
  match lookup name with
  | some value => switch name value
  | none => .ok false

/-- The settings that variables make. What is logged is taken as it is, unless it is blank. -/
def ofVariables (lookup : String → Option String) : Except Fault Settings := do
  let pretty ← switchOf lookup prettyVariable
  let batchSummary ← switchOf lookup summaryVariable
  let filter := (lookup logVariable).filter fun v => !v.toList.all Text.isBlank
  .ok { pretty, batchSummary, logFilter := filter.getD "warn" }

end Settings

end EvmRisk
