import Covenant.Unicode.Case
import Covenant.Unicode.Digit
import Covenant.Unicode.Printable
import Covenant.Unicode.Word

namespace Covenant

/-- The characters that are trimmed off texts. -/
def isBlank (c : Char) : Bool :=
  let n := c.toNat
  (9 ≤ n && n ≤ 13) || (28 ≤ n && n ≤ 32) || n == 0x85 || n == 0xA0 || n == 0x1680
    || (0x2000 ≤ n && n ≤ 0x200A) || n == 0x2028 || n == 0x2029 || n == 0x202F || n == 0x205F
    || n == 0x3000

def trimLeft (cs : List Char) : List Char := cs.dropWhile isBlank

def trimRight (cs : List Char) : List Char := (cs.reverse.dropWhile isBlank).reverse

def trim (cs : List Char) : List Char := trimRight (trimLeft cs)

/-- The value of a decimal digit of any script. -/
def decimalDigit? (c : Char) : Option Nat :=
  let n := c.toNat
  if n < 128 then if 48 ≤ n ∧ n ≤ 57 then some (n - 48) else none
  else
    let ranges := Unicode.decimalSet.ranges
    match ranges[lastStart (fun i => (ranges.getD i (0, 0)).1) n 32 0 ranges.size]? with
    | some (low, high) => if low ≤ n ∧ n ≤ high then some ((n - low) % 10) else none
    | none => none

def isDecimal (c : Char) : Bool := (decimalDigit? c).isSome

def isAsciiDigit (c : Char) : Bool := 48 ≤ c.toNat && c.toNat ≤ 57

def isAsciiUpper (c : Char) : Bool := 65 ≤ c.toNat && c.toNat ≤ 90

def isAsciiLower (c : Char) : Bool := 97 ≤ c.toNat && c.toNat ≤ 122

def isAsciiLetter (c : Char) : Bool := isAsciiUpper c || isAsciiLower c

def isHexDigit (c : Char) : Bool := (hexDigit? c).isSome

def isAlphanumeric (c : Char) : Bool :=
  if c.toNat < 128 then isAsciiDigit c || isAsciiLetter c
  else Unicode.alphanumericSet.contains c.toNat

def isPrintable (c : Char) : Bool :=
  if c.toNat < 128 then 32 ≤ c.toNat && c.toNat < 127 else !Unicode.hiddenSet.contains c.toNat

def lowerAscii (c : Char) : Char := if isAsciiUpper c then Char.ofNat (c.toNat + 32) else c

def upperAscii (c : Char) : Char := if isAsciiLower c then Char.ofNat (c.toNat - 32) else c

/-- The lower-case letter of a character, its place in the text apart. -/
def lowerChar (c : Char) : Char :=
  if c.toNat < 128 then lowerAscii c else (Unicode.lowerMap.get? c.toNat).elim c Char.ofNat

/-- Whether a capital sigma with these neighbours, the nearest first, stands at the end of a word.
-/
def endsWord (before after : List Char) : Bool :=
  let letterFirst (cs : List Char) : Bool :=
    match cs.dropWhile fun c => Unicode.ignorableSet.contains c.toNat with
    | c :: _ => Unicode.casedSet.contains c.toNat
    | [] => false
  letterFirst before && !letterFirst after

def lowerFrom (before : List Char) : List Char → List Char
  | [] => []
  | c :: cs =>
    let rest := lowerFrom (c :: before) cs
    if c.toNat = 0x130 then 'i' :: Char.ofNat 0x307 :: rest
    else if c.toNat = 0x3A3 then (if endsWord before cs then 'ς' else 'σ') :: rest
    else lowerChar c :: rest

def lower (cs : List Char) : List Char := lowerFrom [] cs

/-- The text with a function on its characters applied. -/
def onChars (f : List Char → List Char) (s : String) : String := String.ofList (f s.toList)

def hexDigits (width n : Nat) : List Char :=
  (List.range width).reverse.map fun i =>
    let d := n / Nat.pow 16 i % 16
    Char.ofNat (if d < 10 then 48 + d else 87 + d)

/-- The places where a text is cut, joined again with a separator. -/
def join (sep : String) : List String → String
  | [] => ""
  | [s] => s
  | s :: rest => s ++ sep ++ join sep rest

end Covenant
