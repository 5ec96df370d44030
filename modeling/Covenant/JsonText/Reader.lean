import Covenant.CodeSet
import Covenant.Decimal.Numeral
import Covenant.Value.Text

/-! Reading JSON. -/

namespace Covenant.JsonText

/-- What is wrong at a place of a text. -/
inductive Flaw where
  | value
  | comma
  | colon
  | name
  | extra
  | unterminated
  | control
  | escape
  | unicodeEscape
  | mark
  deriving DecidableEq

def Flaw.describe : Flaw → String
  | value => "Expecting value"
  | comma => "Expecting ',' delimiter"
  | colon => "Expecting ':' delimiter"
  | name => "Expecting property name enclosed in double quotes"
  | extra => "Extra data"
  | unterminated => "Unterminated string starting at"
  | control => "Invalid control character at"
  | escape => "Invalid \\escape"
  | unicodeEscape => "Invalid \\uXXXX escape"
  | mark => "Unexpected UTF-8 BOM (decode using utf-8-sig)"

/-- Why a text is not read. A place is given by the number of characters from there to the end. -/
inductive Problem where
  | flawed (flaw : Flaw) (left : Nat)
  | longInteger (digits : Nat)
  | constant
  deriving DecidableEq

def fail (flaw : Flaw) (place : List Char) : Except Problem α := .error (.flawed flaw place.length)

def isSpace (c : Char) : Bool := c == ' ' || c == '\t' || c == '\n' || c == '\r'

def skip (cs : List Char) : List Char := cs.dropWhile isSpace

def simpleEscape? : Char → Option Char
  | '"' => some '"'
  | '\\' => some '\\'
  | '/' => some '/'
  | 'b' => some '\x08'
  | 'f' => some '\x0c'
  | 'n' => some '\n'
  | 'r' => some '\r'
  | 't' => some '\t'
  | _ => none

/-- Where the reader of a string stands. A place is given by the number of characters left there. -/
inductive Place where
  | plain
  | escape (left : Nat)
  | unicode (left count code : Nat)

/-- The characters read so far, in reverse. The first half of a pair waits for the second one. -/
structure Chars where
  chars : List Char := []
  high : Option Nat := none

namespace Chars

/-- Half of a pair on its own stands for no character. -/
def settle (s : Chars) : List Char := if s.high.isSome then '\uFFFD' :: s.chars else s.chars

def add (s : Chars) (c : Char) : Chars := { chars := c :: s.settle, high := none }

def addCode (s : Chars) (code : Nat) : Chars :=
  match s.high, code / 1024 with
  | some high, 55 =>
    { chars := Char.ofNat (0x10000 + high % 1024 * 1024 + code % 1024) :: s.chars, high := none }
  | _, 54 => { chars := s.settle, high := some code }
  | _, 55 => s.add '\uFFFD'
  | _, _ => s.add (Char.ofNat code)

end Chars

/-- The characters of a string behind its opening quote, which stands `start` from the end of the
text. -/
def readString (start : Nat) : Place → Chars → List Char → Except Problem (List Char × List Char)
  | .plain, _, [] | .escape _, _, [] => .error (.flawed .unterminated start)
  | .unicode left _ _, _, [] => .error (.flawed .unicodeEscape left)
  | .plain, s, c :: rest =>
    if c = '"' then .ok (s.settle.reverse, rest)
    else if c = '\\' then readString start (.escape (rest.length + 1)) s rest
    else if c.toNat < 32 then .error (.flawed .control (rest.length + 1))
    else readString start .plain (s.add c) rest
  | .escape left, s, c :: rest =>
    if c = 'u' then readString start (.unicode (rest.length + 1) 0 0) s rest
    else
      match simpleEscape? c with
      | some e => readString start .plain (s.add e) rest
      | none => .error (.flawed .escape left)
  | .unicode left count code, s, c :: rest =>
    match hexDigit? c with
    | none => .error (.flawed .unicodeEscape left)
    | some d =>
      let code := 16 * code + d
      if count < 3 then readString start (.unicode left (count + 1) code) s rest
      else if rest.isEmpty then .error (.flawed .unicodeEscape left)
      else readString start .plain (s.addCode code) rest

def spanAscii (cs : List Char) : List Char × List Char :=
  (cs.takeWhile isAsciiDigit, cs.dropWhile isAsciiDigit)

/-- A fraction, and what stands behind it. -/
def spanFraction (cs : List Char) : List Char × List Char :=
  match cs with
  | '.' :: rest =>
    match spanAscii rest with
    | ([], _) => ([], cs)
    | (ds, rest) => ('.' :: ds, rest)
  | _ => ([], cs)

def spanExponent (cs : List Char) : List Char × List Char :=
  match cs with
  | e :: rest =>
    if e = 'e' ∨ e = 'E' then
      let sign := rest.takeWhile (fun c => c == '+' || c == '-') |>.take 1
      match spanAscii (rest.drop sign.length) with
      | ([], _) => ([], cs)
      | (ds, rest) => (e :: sign ++ ds, rest)
    else ([], cs)
  | [] => ([], cs)

/-- The digits of a whole number without leading zeros. -/
def spanWhole (cs : List Char) : List Char × List Char :=
  match cs with
  | '0' :: rest => (['0'], rest)
  | _ => spanAscii cs

/-- A number at the start of a text; one with a fraction or an exponent is a float. -/
def readNumber (cs : List Char) : Except Problem (Value × List Char) :=
  let (sign, unsigned) := if cs.head? = some '-' then (['-'], cs.drop 1) else ([], cs)
  match spanWhole unsigned with
  | ([], _) => fail .value cs
  | (whole, rest) =>
    let (fraction, rest) := spanFraction rest
    let (exponent, rest) := spanExponent rest
    if fraction.isEmpty && exponent.isEmpty then
      if digitLimit < whole.length then .error (.longInteger whole.length)
      else
        let n : Int := Numeral.ofDigits (whole.map fun c => c.toNat - 48)
        .ok (.int (if sign.isEmpty then n else -n), rest)
    else
      match Numeral.read? (sign ++ whole ++ fraction ++ exponent) with
      | some n => .ok (.float n.toDouble, rest)
      | none => fail .value cs

/-- A constant at the start of a text, if there is one. Numbers that are not finite may be refused.
-/
def readConstant? (constants : Bool) (cs : List Char) :
    Option (Except Problem (Value × List Char)) :=
  let special (value : Value) (rest : List Char) : Option (Except Problem (Value × List Char)) :=
    some (if constants then .ok (value, rest) else .error .constant)
  match cs with
  | 'n' :: 'u' :: 'l' :: 'l' :: rest => some (.ok (.null, rest))
  | 't' :: 'r' :: 'u' :: 'e' :: rest => some (.ok (.bool true, rest))
  | 'f' :: 'a' :: 'l' :: 's' :: 'e' :: rest => some (.ok (.bool false, rest))
  | 'N' :: 'a' :: 'N' :: rest => special (.float .nan) rest
  | 'I' :: 'n' :: 'f' :: 'i' :: 'n' :: 'i' :: 't' :: 'y' :: rest =>
    special (.float (.infinity false)) rest
  | '-' :: 'I' :: 'n' :: 'f' :: 'i' :: 'n' :: 'i' :: 't' :: 'y' :: rest =>
    special (.float (.infinity true)) rest
  | _ => none

mutual
/-- A value at the start of a text. Every call takes one unit of fuel and at least one character. -/
def readValue (constants : Bool) : Nat → List Char → Except Problem (Value × List Char)
  | 0, cs => fail .value cs
  | fuel + 1, cs =>
    match cs with
    | '"' :: rest => do
      let (chars, rest) ← readString cs.length .plain {} rest
      return (.text (String.ofList chars), rest)
    | '[' :: rest =>
      match skip rest with
      | ']' :: rest => .ok (.list [], rest)
      | rest => do
        let (items, rest) ← readItems constants fuel rest
        return (.list items, rest)
    | '\x7b' :: rest =>
      match skip rest with
      | '\x7d' :: rest => .ok (.map [], rest)
      | rest => do
        let (entries, rest) ← readEntries constants fuel rest
        return (.map (Entries.ofList entries), rest)
    | _ => (readConstant? constants cs).getD (readNumber cs)

/-- One or more values with commas between, up to the closing bracket. -/
def readItems (constants : Bool) : Nat → List Char → Except Problem (List Value × List Char)
  | 0, cs => fail .value cs
  | fuel + 1, cs => do
    let (item, rest) ← readValue constants fuel cs
    match skip rest with
    | ']' :: rest => return ([item], rest)
    | ',' :: rest =>
      let (items, rest) ← readItems constants fuel (skip rest)
      return (item :: items, rest)
    | rest => fail .comma rest

/-- One or more names with values, up to the closing brace. -/
def readEntries (constants : Bool) :
    Nat → List Char → Except Problem (List (Value × Value) × List Char)
  | 0, cs => fail .value cs
  | fuel + 1, cs =>
    match cs with
    | '"' :: rest => do
      let (name, rest) ← readString cs.length .plain {} rest
      match skip rest with
      | ':' :: rest =>
        let (value, rest) ← readValue constants fuel (skip rest)
        let entry : Value × Value := (.text (String.ofList name), value)
        match skip rest with
        | '\x7d' :: rest => return ([entry], rest)
        | ',' :: rest =>
          let (entries, rest) ← readEntries constants fuel (skip rest)
          return (entry :: entries, rest)
        | rest => fail .comma rest
      | rest => fail .colon rest
    | _ => fail .name cs
end

/-- The value of a whole text. -/
def read (constants : Bool) (cs : List Char) : Except Problem Value :=
  if cs.head? = some '\uFEFF' then fail .mark cs
  else do
    let (value, rest) ← readValue constants (2 * cs.length + 2) (skip cs)
    match skip rest with
    | [] => return value
    | rest => fail .extra rest

/-- A message on a problem, with the line and column of its place in the text. -/
def describe (cs : List Char) : Problem → String
  | .flawed flaw left =>
    let place := cs.length - left
    let before := cs.take place
    let line := before.count '\n' + 1
    let column := (before.reverse.takeWhile (· != '\n')).length + 1
    flaw.describe ++ ": line " ++ toString line ++ " column " ++ toString column
      ++ " (char " ++ toString place ++ ")"
  | .longInteger digits =>
    "Exceeds the limit (" ++ toString digitLimit
      ++ " digits) for integer string conversion: value has " ++ toString digits
      ++ " digits; use sys.set_int_max_str_digits() to increase the limit"
  | .constant => ""

end Covenant.JsonText
