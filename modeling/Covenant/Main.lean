import Covenant.Command.Run

/-! The command that filters a JSON document by a contract. -/

open Covenant Covenant.Command

def readFile? (path : String) : IO (Option (List UInt8)) := do
  try
    return some (← IO.FS.readBinFile path).toList
  catch _ => return none

/-- The file of a name, as a table. -/
def readFiles (name : String) : IO (Named (List UInt8)) := do
  let path := cleanPath name
  match ← readFile? path with
  | some data => return [(path, data)]
  | none => return []

/-- What the arguments make the command read. -/
def gather (arguments : Arguments) : IO Sources := do
  let input ← if arguments.input == "-" then (← IO.getStdin).readToEnd else pure ""
  let files ← readFiles arguments.input
  let settings ← readFiles arguments.config
  let assigned := settings.filterMap fun e => (readAssignment? e.2).map fun a => (e.1, a)
  return ⟨input, files ++ settings, assigned⟩

def main (arguments : List String) : IO UInt32 := do
  let sources ←
    match parse arguments with
    | .run arguments => gather arguments
    | _ => pure ⟨"", [], []⟩
  match run sources arguments with
  | .ok report =>
    (← IO.getStdout).putStr report.output
    if let .complained complaint := report then (← IO.getStderr).putStrLn complaint.text
    return report.code.toUInt32
  | .error _ =>
    (← IO.getStderr).putStrLn "The document cannot be filtered."
    return 1
