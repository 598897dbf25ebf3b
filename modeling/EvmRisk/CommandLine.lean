import EvmRisk.Assessment
import EvmRisk.Batch
import EvmRisk.Settings

/-!
# The command line

What the arguments ask for, and what comes of it. `Request.ofArguments?` reads the arguments from
left to right, and the first one that has no meaning spoils them all. `run` answers a request: it is
a function of the arguments, the variables of the environment, the contents of the files and the
time, and gives all that is printed, all that is complained of, and the exit code. Of the files it
needs those that `filesRead` names.

Two things are left out. There is no text of help: `--help`, `-h` and the word `help` are refused
like any argument without meaning, with the exit code 2, where a program that has such a text prints
it and ends with 0. And a file that holds no document of a snapshot is complained of with one
detail, `notASnapshot`, where a reader of documents could say what is wrong and in which line.
-/

namespace EvmRisk.CommandLine

/-- The name of the program. -/
def programName : String := "contract-risk"

/-- The version of the program. -/
def programVersion : String := "0.1.0"

/-- How the program is called. -/
def usage : String :=
  "usage: " ++ programName ++ " analyze [--format text|json] [--pretty] [--summary] SNAPSHOT...\n" ++
    "       " ++ programName ++ " indicators\n" ++
    "       " ++ programName ++ " --version"

/-- What the command for assessing snapshots is given. -/
structure AnalyzeOptions where
  /-- The files of the snapshots. -/
  paths : List String := []
  /-- The word for the format. -/
  format : Option String := none
  /-- Whether documents shall have a line for every part. -/
  pretty : Bool := false
  /-- Whether statistics shall follow. -/
  summary : Bool := false
  deriving DecidableEq, Repr

/-- What the arguments ask for. -/
inductive Request where
  | version
  | indicators
  | analyze (options : AnalyzeOptions)
  deriving DecidableEq, Repr

namespace Request

/-- Whether an argument has the form of an option; a single dash does not. -/
def isOption (arg : String) : Bool :=
  match arg.toList with
  | '-' :: _ :: _ => true
  | _ => false

/-- The word for the format, where it is part of the option. -/
def attachedFormat? (arg : String) : Option String :=
  let mark := "--format=".toList
  if Text.startsWith mark arg.toList then some (String.ofList (arg.toList.drop mark.length))
  else none

/-- Whether an argument asks for the version by a letter. -/
def isVersionLetter (arg : String) : Bool := Text.startsWith "-V".toList arg.toList

/-- One more file. The empty name is that of none. -/
def addPath? (options : AnalyzeOptions) (path : String) : Option AnalyzeOptions :=
  if path.isEmpty then none else some { options with paths := options.paths ++ [path] }

/-- The word for the format, which may be given once. -/
def setFormat? (options : AnalyzeOptions) (word : String) : Option AnalyzeOptions :=
  if options.format.isSome then none else some { options with format := some word }

/-- The arguments of the command for assessing snapshots, after those that made `options`. After
two dashes all arguments are files. -/
def analyzeArguments? (options : AnalyzeOptions) : List String → Option AnalyzeOptions
  | [] => if options.paths.isEmpty then none else some options
  | "--" :: rest => do
    let options ← rest.foldlM addPath? options
    if options.paths.isEmpty then none else some options
  | "--pretty" :: rest =>
    if options.pretty then none else analyzeArguments? { options with pretty := true } rest
  | "--summary" :: rest =>
    if options.summary then none else analyzeArguments? { options with summary := true } rest
  | "--format" :: word :: rest =>
    if isOption word then none
    else
      match setFormat? options word with
      | some options => analyzeArguments? options rest
      | none => none
  | arg :: rest =>
    let next :=
      match attachedFormat? arg with
      | some word => setFormat? options word
      | none => if isOption arg then none else addPath? options arg
    match next with
    | some options => analyzeArguments? options rest
    | none => none

/-- What the arguments ask for; `none` if they have no meaning, which includes those that ask for
help. Two dashes may end the options of a command that takes no files, too. -/
def ofArguments? : List String → Option Request
  | "analyze" :: rest => (analyzeArguments? {} rest).map analyze
  | ["indicators"] => some indicators
  | ["indicators", "--"] => some indicators
  | "--version" :: _ => some version
  | arg :: _ => if isVersionLetter arg then some version else none
  | [] => none

end Request

/-- What is printed, and the exit code. -/
structure Outcome where
  /-- The exit code: 0 for success, 1 for a failure, 2 for arguments without meaning. -/
  exitCode : UInt32
  /-- What is printed. -/
  output : String := ""
  /-- The lines on the error output. -/
  complaints : List String := []
  deriving DecidableEq, Repr

/-- The detail for a file that holds no document of a snapshot, whatever is wrong with it. -/
def notASnapshot : String := "it does not describe a contract"

/-- What comes of one snapshot: an assessment, unless its file cannot be read or holds no document
of a snapshot. -/
def assess (files : String → Option String) (path : String) : Except Fault Assessment :=
  match files path with
  | none => .error (.unreadable path)
  | some text =>
    match Snapshot.read? text with
    | some s => .ok s.analyze
    | none => .error (.notADocument notASnapshot)

/-- What is printed about one snapshot. -/
def block (settings : Settings) (path : String) (a : Assessment) : String :=
  match settings.format with
  | .text => "📄 " ++ path ++ "\n" ++ a.summary ++ "\n\n"
  | .json => (if settings.pretty then a.report.pretty else a.report.compact) ++ "\n"

/-- What is printed about what came of one snapshot; nothing if it could not be assessed. -/
def blockOf (settings : Settings) (path : String) : Except Fault Assessment → String
  | .ok a => block settings path a
  | .error _ => ""

/-- What is complained of about what came of one snapshot. -/
def complaint? (path : String) : Except Fault Assessment → Option String
  | .ok _ => none
  | .error fault => some ("❌ " ++ path ++ ": " ++ fault.display)

/-- What is printed about a batch at its end. -/
def statsBlock (settings : Settings) (stats : Batch.Stats) : String :=
  match settings.format with
  | .text => stats.summary ++ "\n"
  | .json => stats.json settings.pretty ++ "\n"

/-- Counts what comes of one snapshot. -/
def count (t : Batch.Tally) : Except Fault Assessment → Batch.Tally
  | .ok a => t.record a
  | .error _ => t.recordFailure

/-- What comes of a batch: the blocks of the snapshots that could be assessed, in the order of the
arguments, and after them the statistics if they are wanted. -/
def analyzeBatch (settings : Settings) (files : String → Option String) (paths : List String)
    (periodStart periodEnd : Time.Instant) : Outcome :=
  let results := paths.map fun path => (path, assess files path)
  let tally := (results.map (·.2)).foldl count .empty
  let stats := tally.stats (some periodStart) (some periodEnd)
  { exitCode := if 0 < tally.failed then 1 else 0
    output :=
      String.join (results.map fun r => blockOf settings r.1 r.2) ++
        if settings.batchSummary then statsBlock settings stats else ""
    complaints := results.filterMap fun r => complaint? r.1 r.2 }

/-- The settings for a batch: those of the environment, the format of the arguments, and what the
arguments add. -/
def batchSettings (settings : Settings) (options : AnalyzeOptions) : Except Fault Settings := do
  let format ← match options.format with
    | some word => OutputFormat.ofWord word
    | none => .ok settings.format
  .ok { settings with
    format
    pretty := settings.pretty || options.pretty
    batchSummary := settings.batchSummary || options.summary }

/-- What is printed about the indicators. -/
def indicatorTable : String :=
  (Json.Value.array (Indicator.all.map Indicator.profileValue)).pretty ++ "\n"

/-- The settings for a request. -/
def settingsFor (environment : String → Option String) (request : Request) :
    Except Fault Settings := do
  let settings ← Settings.ofVariables environment
  match request with
  | .analyze options => batchSettings settings options
  | _ => .ok settings

/-- The files that are read for the arguments: none unless the settings have a meaning. -/
def filesRead (arguments : List String) (environment : String → Option String) : List String :=
  match Request.ofArguments? arguments with
  | some (.analyze options) =>
    match settingsFor environment (.analyze options) with
    | .ok _ => options.paths
    | .error _ => []
  | _ => []

/-- What comes of the arguments. Arguments without meaning come first, then a fault in the
environment, then one in the format; with any of them nothing is printed. -/
def run (arguments : List String) (environment : String → Option String)
    (files : String → Option String) (periodStart periodEnd : Time.Instant) : Outcome :=
  match Request.ofArguments? arguments with
  | none => { exitCode := 2, complaints := [usage] }
  | some .version => { exitCode := 0, output := programName ++ " " ++ programVersion ++ "\n" }
  | some request =>
    match settingsFor environment request, request with
    | .error fault, _ => { exitCode := 1, complaints := [fault.display] }
    | .ok settings, .analyze options =>
      analyzeBatch settings files options.paths periodStart periodEnd
    | .ok _, _ => { exitCode := 0, output := indicatorTable }

end EvmRisk.CommandLine
