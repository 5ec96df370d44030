import Covenant.Decimal.Numeral
import Covenant.Value.Text

/-! Forgiving readings of numbers, sizes and flags. -/

namespace Covenant

namespace Value

def isNumber : Value → Bool
  | int _ | float _ => true
  | _ => false

/-- Numbers, and texts that hold a decimal number. -/
def isNumeric : Value → Bool
  | int _ | float _ => true
  | text s => (Numeral.read? (trim s.toList)).isSome
  | _ => false

end Value

/-- The integer part of a number. -/
def Double.truncate (x : Double) : Except Failure Int :=
  match x.truncate? with
  | some i => .ok i
  | none => .error (.crashed (if x.isNaN then .unreadable else .overflow))

/-- The nearest number to an integer that is not too large for one. -/
def Double.ofIntChecked (i : Int) : Except Failure Double :=
  match Double.ofInt? i with
  | some x => .ok x
  | none => .error (.crashed .overflow)

namespace Loose

def finite? (x : Double) : Option Double := if x.isFinite then some x else none

/-- A finite decimal number, thousands separators allowed. -/
def readFloat? (cs : List Char) : Option Double :=
  match Numeral.readGrouped? cs with
  | some n => finite? n.toDouble
  | none => (Numeral.read? cs).bind fun n => finite? n.toDouble

/-- Forgiving conversion to a finite float. -/
def toFloat? : Value → Except Failure (Option Double)
  | .int i => do return some (← Double.ofIntChecked i)
  | .float x => .ok (finite? x)
  | .text s => .ok (readFloat? (trim s.toList))
  | _ => .ok none

def readHex? : List Char → Option Nat
  | '0' :: x :: d :: ds =>
    if (x = 'x' ∨ x = 'X') ∧ (d :: ds).all isHexDigit then some (hexNumber (d :: ds)) else none
  | _ => none

def isOctal (c : Char) : Bool := 48 ≤ c.toNat && c.toNat ≤ 55

def readOctal? : List Char → Option Nat
  | '0' :: d :: ds =>
    if (d :: ds).all isOctal then some ((d :: ds).foldl (fun n c => 8 * n + (c.toNat - 48)) 0)
    else none
  | _ => none

/-- A decimal integer without leading zeros, as a sign and digits. -/
def readInteger? (cs : List Char) : Option (Bool × List Nat) :=
  let (negative, digits) := Numeral.spanSign cs
  match digits with
  | ['0'] => some (negative, [0])
  | c :: _ =>
    if isAsciiDigit c ∧ c ≠ '0' then
      match Numeral.spanDigits digits with
      | (ds, []) => some (negative, ds)
      | _ => none
    else none
  | [] => none

/-- Hexadecimal, octal and decimal integers, and decimal numbers cut to their integer part. -/
def readInt? (cs : List Char) : Except Failure (Option Int) :=
  match readHex? cs, readOctal? cs, readInteger? cs with
  | some n, _, _ => .ok (some n)
  | none, some n, _ => .ok (some n)
  | none, none, some (negative, ds) =>
    if digitLimit < ds.length then .error (.crashed .unreadable)
    else
      let n : Int := Numeral.ofDigits ds
      .ok (some (if negative then -n else n))
  | none, none, none => .ok ((readFloat? cs).bind Double.truncate?)

/-- Forgiving conversion to an integer. -/
def toInt? : Value → Except Failure (Option Int)
  | .int i => .ok (some i)
  | .float x => .ok x.truncate?
  | .text s => readInt? (trim s.toList)
  | _ => .ok none

end Loose

namespace Size

/-- The power of 1024 of a unit letter of either case; the Kelvin sign counts as a letter K. -/
def unit? (c : Char) : Option Nat :=
  match lowerChar c with
  | 'k' => some 1
  | 'm' => some 2
  | 'g' => some 3
  | 't' => some 4
  | _ => none

def isLetterI (c : Char) : Bool := c == 'i' || c == 'I' || c.toNat == 0x130 || c.toNat == 0x131

def isLetterB (c : Char) : Bool := c == 'b' || c == 'B'

/-- The end of a size: nothing, `B` or `iB`. -/
def isByteMark : List Char → Bool
  | [] => true
  | [b] => isLetterB b
  | [i, b] => isLetterI i && isLetterB b
  | _ => false

/-- The power of 1024 that the text behind a size stands for. -/
def readUnit? (cs : List Char) : Option Nat :=
  match cs with
  | c :: rest =>
    match unit? c with
    | some power => if isByteMark rest then some power else none
    | none => if isByteMark cs then some 0 else none
  | [] => some 0

/-- Digits, an optional fraction and an optional unit, blanks between and around them allowed. -/
def read? (cs : List Char) : Option (Numeral × Nat) := do
  let (whole, rest) := Numeral.spanDigits (trim cs)
  if whole.isEmpty then none
  else
    match rest with
    | '.' :: rest =>
      let (fraction, rest) := Numeral.spanDigits rest
      if fraction.isEmpty then none
      else return (⟨false, whole, fraction, 0⟩, ← readUnit? (trimLeft rest))
    | rest => return (⟨false, whole, [], 0⟩, ← readUnit? (trimLeft rest))

def bad (value : Value) : Except Failure α := do
  .error (.malformed ("Bad size value '" ++ (← value.toText) ++ "'."))

/-- A length or size parameter: a number, or a text with an optional binary unit. -/
def ofValue (value : Value) : Except Failure (Option Nat) := do
  if value.isAbsent then return none
  match value with
  | .int i =>
    let _ ← Double.ofIntChecked i
    if i < 0 then bad value else return some i.toNat
  | .float x =>
    if !x.isFinite || x.lt .zero then bad value else return some (← x.truncate).toNat
  | .text s =>
    match read? s.toList with
    | some (number, power) => return some (← (number.toDouble.scale (10 * power)).truncate).toNat
    | none => bad value
  | _ => bad value

end Size

def badParameter (name : String) : Failure :=
  .malformed ("Bad contract '" ++ name ++ "' parameter.")

namespace Bound

/-- The number a bound is written as: a native one, or a text when texts are converted. -/
def number? (value : Value) (name : String) (convert : Bool) : Except Failure (Option Value) := do
  if value.isAbsent then return none
  if value.isNumber then return some value
  match value, convert with
  | .text s, true =>
    match Loose.readFloat? (trim s.toList) with
    | some x => return some (.float x)
    | none => .error (badParameter name)
  | _, _ => .error (badParameter name)

/-- An integer bound; a fraction is cut off. -/
def ofInt (value : Value) (name : String) (convert : Bool) : Except Failure (Option Int) := do
  match ← number? value name convert with
  | some (.int i) => return some i
  | some (.float x) => return some (← x.truncate)
  | _ => return none

def ofFloat (value : Value) (name : String) (convert : Bool) : Except Failure (Option Double) := do
  match ← number? value name convert with
  | some (.int i) => return some (← Double.ofIntChecked i)
  | some (.float x) => return some x
  | _ => return none

end Bound

namespace Flag

def trueWords : List String := ["true", "1", "yes", "on"]

def falseWords : List String := ["false", "0", "no", "off", ""]

def ofWord? (s : String) : Option Bool :=
  let word := onChars (fun cs => lower (trim cs)) s
  if trueWords.contains word then some true
  else if falseWords.contains word then some false
  else none

/-- A flag parameter: a boolean, an integer or a word. -/
def ofValue (value : Value) (name : String) : Except Failure Bool :=
  match value with
  | .bool b => .ok b
  | .int i => .ok (i != 0)
  | .text s =>
    match ofWord? s with
    | some b => .ok b
    | none => .error (badParameter name)
  | _ => .error (badParameter name)

end Flag

/-- The shortest text of a number, a whole one without a fraction. -/
def formatNumber (x : Double) : String :=
  if x.isInteger then String.ofList (Decimal.ofInt (x.truncate?.getD 0))
  else String.ofList (Decimal.ofDouble x)

end Covenant
