import Covenant.Charset.Utf
import Covenant.Decimal.Numeral
import Covenant.Named
import Covenant.Value.Text

/-! Forgiving readings of single settings. -/

namespace Covenant.Config

/-- What is wrong with a setting. -/
inductive Issue where
  | notMapping
  | unknownName
  | nameNotText
  | notBool
  | badBool
  | badWord
  | notInt
  | badInt
  | longInt
  | fraction
  | notFinite
  | tooSmall
  | tooLarge
  | badLevel
  | notText
  | badEncoding
  | notTable
  | notList
  deriving DecidableEq

/-- Something wrong at a place, which is given by the keys that lead to it. -/
structure Problem where
  issue : Issue
  place : List Value

/-- A reading that fails with all problems that it meets. -/
abbrev Checked (α : Type) := Except (List Problem) α

namespace Checked

def bad (issue : Issue) : Checked α := .error [⟨issue, []⟩]

/-- Both readings, with the problems of both. -/
def both (a : Checked α) (b : Checked β) : Checked (α × β) :=
  match a, b with
  | .ok a, .ok b => .ok (a, b)
  | .ok _, .error ps => .error ps
  | .error ps, .ok _ => .error ps
  | .error ps, .error qs => .error (ps ++ qs)

/-- A reading at a place. -/
def under (key : Value) (a : Checked α) : Checked α :=
  a.mapError fun ps => ps.map fun p => { p with place := key :: p.place }

def inside (name : String) (a : Checked α) : Checked α := a.under (.text name)

end Checked

/-- Blanks, the separators of records and fields apart. -/
def isSpace (c : Char) : Bool := isBlank c && !(28 ≤ c.toNat && c.toNat ≤ 31)

def trimSpace (cs : List Char) : List Char :=
  ((cs.dropWhile isSpace).reverse.dropWhile isSpace).reverse

/-- The text that a value is or encodes. -/
def readText (value : Value) : Checked String :=
  match value with
  | .text s => .ok (onChars trimSpace s)
  | .bytes data | .buffer data =>
    match Utf8.decode? data with
    | some cs => .ok (String.ofList (trimSpace cs))
    | none => .bad .badEncoding
  | _ => .bad .notText

/-- The text a boolean or an integer may be written as. -/
def writing? : Value → Option (List Char)
  | .text s => some s.toList
  | .bytes data => some ((Utf8.decode? data).getD ['\uFFFD'])
  | _ => none

def trueWords : List String := ["1", "on", "t", "true", "y", "yes"]

def falseWords : List String := ["0", "off", "f", "false", "n", "no"]

def readBool (value : Value) : Checked Bool :=
  match value, writing? value with
  | .bool b, _ => .ok b
  | .int 0, _ => .ok false
  | .int 1, _ => .ok true
  | .int _, _ => .bad .badBool
  | .float x, _ =>
    if x.eqInt 0 then .ok false else if x.eqInt 1 then .ok true else .bad .notBool
  | _, some cs =>
    let word := String.ofList (cs.map lowerAscii)
    if trueWords.contains word then .ok true
    else if falseWords.contains word then .ok false
    else .bad .badBool
  | _, none => .bad .notBool

/-- Drops a plus sign, which no minus sign may follow. -/
def dropPlus : List Char → List Char
  | '+' :: '-' :: _ => []
  | '+' :: cs => cs
  | cs => cs

/-- What is left of a run of zeros and underscores, a lone last one included. -/
def dropZeros (last : Char) : List Char → List Char
  | [] => [last]
  | '.' :: cs => last :: '.' :: cs
  | c :: cs => if c = '0' ∨ c = '_' then dropZeros c cs else c :: cs

/-- Drops a fraction that is zero. -/
def dropFraction (cs : List Char) : List Char :=
  match cs.dropWhile (· != '.') with
  | _ :: fraction => if fraction.all (· == '0') then cs.takeWhile (· != '.') else cs
  | [] => cs

def doubled : List Char → Bool
  | '_' :: '_' :: _ => true
  | _ :: cs => doubled cs
  | [] => false

/-- Drops underscores that stand alone inside. -/
def dropUnderscores (cs : List Char) : List Char :=
  if cs.head? = some '_' ∨ cs.getLast? = some '_' ∨ doubled cs then cs else cs.filter (· != '_')

/-- Reads digits without a leading zero. -/
def readDigits (cs : List Char) : Checked Nat :=
  if cs.isEmpty || !cs.all isAsciiDigit || (cs.head? == some '0' && cs.length > 1) then .bad .badInt
  else if digitLimit < cs.length then .bad .longInt
  else .ok (Numeral.ofDigits (Numeral.spanDigits cs).1)

/-- Reads an integer, which may have leading zeros, single underscores and a fraction of zero. -/
def readIntText (cs : List Char) : Checked Int :=
  let cs := dropPlus (trimSpace cs)
  let cs := match cs with
    | '0' :: rest => dropZeros '0' rest
    | _ => cs
  match dropUnderscores (dropFraction cs) with
  | '-' :: digits => do return -(← readDigits digits : Int)
  | digits => do return (← readDigits digits)

/-- Whole numbers are integers if they take 64 bits at most. -/
def readIntFloat (x : Double) : Checked Int :=
  if !x.isFinite then .bad .notFinite
  else if !x.isInteger then .bad .fraction
  else
    match x.truncate? with
    | some i => if i.natAbs < Nat.pow 2 63 then .ok i else .bad .longInt
    | none => .bad .longInt

def readInt (value : Value) : Checked Int :=
  match value, writing? value with
  | .bool b, _ => .ok b.toNat
  | .int i, _ => .ok i
  | .float x, _ => readIntFloat x
  | _, some cs => readIntText cs
  | _, none => .bad .notInt

/-- How much is logged. -/
inductive Level where
  | debug
  | info
  | warning
  | error
  | critical
  deriving DecidableEq

namespace Level

def name : Level → String
  | debug => "DEBUG"
  | info => "INFO"
  | warning => "WARNING"
  | error => "ERROR"
  | critical => "CRITICAL"

def all : List Level := [debug, info, warning, error, critical]

def read (value : Value) : Checked Level :=
  match value with
  | .text s =>
    match all.find? (·.name == s) with
    | some level => .ok level
    | none => .bad .badLevel
  | _ => .bad .badLevel

end Level

/-- A key as a part of a place. -/
def placeOf (key : Value) : Value :=
  match key with
  | .text _ => key
  | .bool b => .int b.toNat
  | .int i => if i.natAbs < Nat.pow 2 63 then key else shownAs
  | _ => shownAs
where
  shownAs := .text (String.ofList ((key.shown.toOption).getD []))

/-- The problems of a key that is no text. -/
def readKey (key : Value) : Checked String :=
  (Checked.inside "[key]" (readText key)).under (placeOf key)

/-- Reads a table with a reading for what its keys stand for. -/
def readTable (read : Value → Checked Value) : Entries → Checked (Named Value)
  | [] => .ok []
  | (key, value) :: rest => do
    let (entry, others) ←
      ((readKey key).both ((read value).under (placeOf key))).both (readTable read rest)
    return entry :: others

/-- Reads what an alias stands for: a text, a mapping with texts for keys, or a list. -/
def readTarget (value : Value) : Checked Value :=
  let text := Checked.inside "constrained-str" (readText value)
  let mapping := Checked.inside "dict[constrained-str,any]" (readMapping value)
  let list := Checked.inside "list[any]" (readList value)
  match text, mapping, list with
  | .ok s, _, _ => .ok (.text s)
  | _, .ok entries, _ => .ok (.map entries)
  | _, _, .ok items => .ok (.list items)
  | .error ps, .error qs, .error rs => .error (ps ++ qs ++ rs)
where
  readMapping : Value → Checked Entries
    | .map entries => do
      return Entries.ofList ((← readTable .ok entries).map fun e => (.text e.1, e.2))
    | _ => .bad .notTable
  readList : Value → Checked (List Value)
    | .list items | .tuple items | .deque items => .ok items
    | _ => .bad .notList

/-- Reads a table of aliases. -/
def readAliases (value : Value) : Checked (Named Value) :=
  match value with
  | .map entries => do return Named.update [] (← readTable readTarget entries)
  | _ => .bad .notTable

end Covenant.Config
