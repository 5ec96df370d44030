import Covenant.Named
import Covenant.Text

/-! The arguments of the command: options in any place, a contract and an input. -/

namespace Covenant.Command

inductive Switch where
  | help
  | config
  | strict
  | loose
  | verbose
  | version
  deriving DecidableEq

/-- The command to filter a document. -/
structure Arguments where
  contract : String
  input : String
  config : String
  strict : Option Bool
  verbose : Bool

/-- What a command line asks for. -/
inductive Parsed where
  | run (arguments : Arguments)
  | version
  | help
  | misuse

def switches : Named Switch :=
  [("-h", .help), ("--help", .help), ("--config", .config), ("--strict", .strict),
    ("--loose", .loose), ("-v", .verbose), ("--verbose", .verbose), ("--version", .version)]

/-- What one argument is. A switch may hold its value, or further letters. -/
inductive Word where
  | plain (s : String)
  | switch (which : Switch) (short : Bool) (value : Option (List Char))
  | unknown
  /-- The mark behind which all is plain. -/
  | mark

/-- A negative number, which is no option. -/
def isNegativeNumber (cs : List Char) : Bool :=
  match cs with
  | '-' :: rest =>
    let rest := if rest.getLast? = some '\n' then rest.dropLast else rest
    match rest.dropWhile isDecimal with
    | [] => !rest.isEmpty
    | '.' :: fraction => !fraction.isEmpty && fraction.all isDecimal
    | _ => false
  | _ => false

/-- The part before an equals sign, and the value behind it. -/
def splitValue (cs : List Char) : List Char × Option (List Char) :=
  match cs.dropWhile (· != '=') with
  | _ :: value => (cs.takeWhile (· != '='), some value)
  | [] => (cs, none)

def named? (name : List Char) : Option Switch := switches.get? (String.ofList name)

/-- The long switches that a name may be short for. -/
def completions (name : List Char) : List Switch :=
  (switches.filter fun e => name.isPrefixOf e.1.toList).map (·.2)

/-- An argument that is no switch as it stands: a number, or a text with a space in it, is plain. -/
def other (cs : List Char) : Word :=
  if isNegativeNumber cs || cs.contains ' ' then .plain (String.ofList cs) else .unknown

/-- Reads a long switch, which may be shortened; none if several switches start like that. -/
def readLong (cs : List Char) : Option Word :=
  let (name, value) := splitValue cs
  match completions name with
  | [which] => some (.switch which false value)
  | [] => some (other cs)
  | _ => none

/-- Reads a switch of one letter, which other letters may follow. -/
def readShort (cs : List Char) : Word :=
  match named? (cs.take 2) with
  | some which => .switch which true (some (cs.drop 2))
  | none => other cs

/-- Reads an argument in front of the mark; none if it is ambiguous. -/
def readWord (s : String) : Option Word :=
  match s.toList with
  | '-' :: c :: cs =>
    let whole := '-' :: c :: cs
    let (name, value) := splitValue whole
    match named? whole, named? name, value with
    | some which, _, _ => some (.switch which (c != '-') none)
    | none, some which, some value => some (.switch which (c != '-') (some value))
    | _, _, _ => if c = '-' then readLong whole else some (readShort whole)
  | _ => some (.plain s)

def readWords : List String → Option (List Word)
  | [] => some []
  | "--" :: rest => some (.mark :: rest.map .plain)
  | s :: rest => do return (← readWord s) :: (← readWords rest)

/-- The arguments that are still open. -/
inductive Stage where
  | start
  | contract
  | input
  | closed
  deriving DecidableEq

structure State where
  stage : Stage := .start
  contract : Option String := none
  input : String := "-"
  config : String := ""
  strict : Option Bool := none
  verbose : Bool := false
  /-- Whether an argument was left over. -/
  surplus : Bool := false

namespace State

/-- An option ends the contract and the input, once there is a contract. -/
def interrupt (s : State) : State :=
  if s.stage = .start then s else { s with stage := .closed }

def addPlain (s : State) (text : String) : State :=
  match s.stage with
  | .start => { s with stage := .contract, contract := some text }
  | .contract => { s with stage := .input, input := if text == "--" then "-" else text }
  | .input | .closed => { s with surplus := true }

def addMark (s : State) : State :=
  if s.stage = .closed then { s with surplus := true } else s

/-- The two modes exclude each other. -/
def setMode (s : State) (strict : Bool) : Option State :=
  if s.strict = some !strict then none else some { s with strict := some strict }

/-- The letters behind a switch of one letter: whether there is one for help, if all are known. -/
def letters? : List Char → Option Bool
  | [] => some false
  | c :: cs =>
    match named? ['-', c] with
    | some .help => (letters? cs).map fun _ => true
    | some .verbose => letters? cs
    | _ => none

def finish (s : State) : Parsed :=
  match s.contract with
  | some contract =>
    if s.surplus then .misuse else .run ⟨contract, s.input, s.config, s.strict, s.verbose⟩
  | none => .misuse

end State

/-- Goes through the arguments; the first that ends the command counts. -/
def interpret (s : State) : List Word → Parsed
  | [] => s.finish
  | .plain text :: rest => interpret (s.addPlain text) rest
  | .mark :: rest => interpret s.addMark rest
  | .unknown :: rest => interpret { s.interrupt with surplus := true } rest
  | .switch .config _ (some value) :: rest =>
    interpret { s.interrupt with config := String.ofList value } rest
  | .switch .config _ none :: .plain value :: rest =>
    interpret { s.interrupt with config := value } rest
  | .switch .config _ none :: _ => .misuse
  | .switch which short (some letters) :: rest =>
    if !short || letters.isEmpty then .misuse
    else
      match State.letters? letters with
      | none => .misuse
      | some true => .help
      | some false =>
        if which = .help then .help else interpret { s.interrupt with verbose := true } rest
  | .switch .help _ none :: _ => .help
  | .switch .version _ none :: _ => .version
  | .switch .verbose _ none :: rest => interpret { s.interrupt with verbose := true } rest
  | .switch .strict _ none :: rest =>
    match s.interrupt.setMode true with
    | some s => interpret s rest
    | none => .misuse
  | .switch .loose _ none :: rest =>
    match s.interrupt.setMode false with
    | some s => interpret s rest
    | none => .misuse

def parse (arguments : List String) : Parsed :=
  match readWords arguments with
  | some words => interpret {} words
  | none => .misuse

end Covenant.Command
