import Covenant.Command.Arguments
import Covenant.Command.Document
import Covenant.Config.Resolve

/-! Running the command on given files. -/

namespace Covenant.Command

/-- What the command reads: its input, files, and files that set a variable. -/
structure Sources where
  input : String
  files : Named (List UInt8)
  settings : Named (String × Value)

/-- Why the command gives no document. -/
inductive Complaint where
  | contract (message : String)
  | data (message : String)
  | noSettings (message : String)
  | badSettings (problems : List Config.Problem)
  | noInput

def Complaint.text : Complaint → String
  | contract message => "Contract error: " ++ message
  | data message => "Validation error: " ++ message
  | noSettings message => "Configuration error: " ++ message
  | badSettings _ => "Configuration error"
  | noInput => "Input error"

inductive Report where
  | printed (text : String)
  | complained (complaint : Complaint)
  | version
  | help
  | misuse

namespace Report

/-- The exit code: 1 for bad data, 2 for anything else that is wrong. -/
def code : Report → Nat
  | printed _ | version | help => 0
  | complained (.data _) | complained .noInput => 1
  | complained _ | misuse => 2

def output : Report → String
  | printed text => text ++ "\n"
  | version => "datafilter 0.1.0\n"
  | complained _ | help | misuse => ""

end Report

/-- The path without empty steps and steps that stay. -/
def cleanPath (path : String) : String :=
  let steps := (splitWhere (· == '/') path.toList).filter fun step => step != [] && step != ['.']
  let steps := join "/" (steps.map String.ofList)
  if path.toList.head? = some '/' then "/" ++ steps else if steps == "" then "." else steps

/-- A line break of any system is one character. -/
def unifyBreaks : List Char → List Char
  | '\r' :: '\n' :: cs => '\n' :: unifyBreaks cs
  | '\r' :: cs => '\n' :: unifyBreaks cs
  | c :: cs => c :: unifyBreaks cs
  | [] => []

def readInput (sources : Sources) (input : String) : Except Complaint String :=
  if input == "-" then .ok sources.input
  else
    match (sources.files.get? (cleanPath input)).bind Utf8.decode? with
    | some cs => .ok (String.ofList (unifyBreaks cs))
    | none => .error .noInput

/-- A file that sets a variable holds a name, an equals sign and a JSON value. -/
def readAssignment? (data : List UInt8) : Option (String × Value) := do
  let cs ← Utf8.decode? data
  let value ← (JsonText.read true (trim ((cs.dropWhile (· != '=')).drop 1))).toOption
  return (String.ofList (trim (cs.takeWhile (· != '='))), value)

/-- The settings are a mapping under a name that starts with `CONFIG`. -/
def readSettings (sources : Sources) (path : String) : Except Complaint Entries :=
  let path := cleanPath path
  match sources.settings.get? path with
  | some (name, .map entries) =>
    if "CONFIG".toList.isPrefixOf name.toList then .ok entries else .error (missing path)
  | some _ => .error (missing path)
  | none =>
    if sources.files.has path then .error (missing path)
    else .error (.noSettings ("Config not found: " ++ path))
where
  missing (path : String) : Complaint := .noSettings ("No CONFIG dict found in " ++ path)

def checked (a : Config.Checked α) : Except Complaint α := a.mapError .badSettings

def readConfig (sources : Sources) (arguments : Arguments) : Except Complaint Config := do
  let user ← if arguments.config == "" then .ok [] else readSettings sources arguments.config
  let strict := (arguments.strict.map fun b => (.text "strict", .bool b)).toList
  let level :=
    if arguments.verbose then [(.text "log_level", .text Config.Level.debug.name)] else []
  checked (Config.resolve .null (.map user) (.map (strict ++ level)))

/-- What a failure to filter a document is reported as. -/
def complaintOf (failure : Failure) : Except Failure Complaint :=
  match failure with
  | .malformed message => .ok (.contract message)
  | .rejected message => .ok (.data message)
  | .crashed fault => .error (.crashed fault)

def filterDocument (sources : Sources) (arguments : Arguments) : Except Failure Report :=
  match readConfig sources arguments with
  | .error complaint => .ok (.complained complaint)
  | .ok config =>
    match readInput sources arguments.input with
    | .error complaint => .ok (.complained complaint)
    | .ok input =>
      match Document.filter config arguments.contract input with
      | .ok text => .ok (.printed text)
      | .error failure => do return .complained (← complaintOf failure)

def run (sources : Sources) (arguments : List String) : Except Failure Report :=
  match parse arguments with
  | .run arguments => filterDocument sources arguments
  | .version => .ok .version
  | .help => .ok .help
  | .misuse => .ok .misuse

end Covenant.Command
