/-!
# Faults

What can go wrong before a contract is assessed, by its cause. A missing or unreadable part of what
is known about a contract is no fault: it makes a verdict inconclusive.
-/

namespace EvmRisk

/-- A cause of failure. -/
inductive Fault where
  /-- The file of a snapshot cannot be read. -/
  | unreadable (path : String)
  /-- A document is not what it should be; the detail says why. -/
  | notADocument (detail : String)
  /-- A text is no interface; the detail says why. -/
  | malformedAbi (detail : String)
  /-- A text is no address. -/
  | invalidAddress (raw : String)
  /-- A setting has no meaning; the detail says which. -/
  | invalidSetting (detail : String)
  deriving DecidableEq, Repr

namespace Fault

/-- The name of the kind of fault. -/
def code : Fault → String
  | unreadable _ => "SNAPSHOT_IO"
  | notADocument _ => "SNAPSHOT_PARSE"
  | malformedAbi _ => "ABI_MALFORMED"
  | invalidAddress _ => "INPUT_INVALID_ADDRESS"
  | invalidSetting _ => "CFG_INVALID_VALUE"

/-- A fault in words. -/
def message : Fault → String
  | unreadable path => "Cannot read snapshot " ++ path
  | notADocument detail => "Invalid snapshot document: " ++ detail
  | malformedAbi detail => detail
  | invalidAddress raw => "Invalid address: " ++ raw
  | invalidSetting detail => detail

/-- A fault in words, with the name of its kind in front. -/
def display (f : Fault) : String := "[" ++ f.code ++ "] " ++ f.message

/-- Whether another failure is behind it: that of a file or that of a document. -/
def hasCause : Fault → Bool
  | unreadable _ | notADocument _ => true
  | _ => false

end Fault

end EvmRisk
