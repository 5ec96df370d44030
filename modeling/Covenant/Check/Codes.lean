import Covenant.Check.Basic
import Covenant.Charset.Utf
import Covenant.Digest.Algorithm
import Covenant.Slug

/-! Codes of a fixed format: UUIDs, product numbers, digests, colors, phone numbers and slugs. -/

namespace Covenant.Check

/-- The text without one line feed at its end. -/
def withoutLineFeed (cs : List Char) : List Char :=
  if cs.getLast? = some '\n' then cs.dropLast else cs

def acceptChars (cs : List Char) : Outcome := accept (.text (String.ofList cs))

namespace Uuid

/-- Groups of 8, 4, 4, 4 and 12 hexadecimal digits. -/
def isCanonical (cs : List Char) : Bool :=
  let groups := splitWhere (· == '-') (withoutLineFeed cs)
  groups.map List.length == [8, 4, 4, 4, 12] && groups.all (·.all isHexDigit)

def removeUrn : List Char → List Char
  | 'u' :: 'r' :: 'n' :: ':' :: cs => removeUrn cs
  | c :: cs => c :: removeUrn cs
  | [] => []

def removeUuid : List Char → List Char
  | 'u' :: 'u' :: 'i' :: 'd' :: ':' :: cs => removeUuid cs
  | c :: cs => c :: removeUuid cs
  | [] => []

def isBrace (c : Char) : Bool := c == '\x7b' || c == '\x7d'

def stripBraces (cs : List Char) : List Char :=
  (((cs.dropWhile isBrace).reverse).dropWhile isBrace).reverse

/-- The value of a hexadecimal digit, decimal digits of any script included. -/
def digit? (c : Char) : Option Nat :=
  match decimalDigit? c with
  | some d => some d
  | none => hexDigit? c

/-- The number of digits that may be parted by single underscores. -/
def digits? (n : Nat) : List Char → Option Nat
  | [] => some n
  | '_' :: c :: cs => (digit? c).bind fun d => digits? (16 * n + d) cs
  | c :: cs => (digit? c).bind fun d => digits? (16 * n + d) cs

def isZero (c : Char) : Bool := decimalDigit? c == some 0

/-- What may stand around a number: the blanks that are no control codes for separating data. -/
def isMargin (c : Char) : Bool := isBlank c && !(28 ≤ c.toNat && c.toNat ≤ 31)

def stripMargins (cs : List Char) : List Char :=
  (((cs.dropWhile isMargin).reverse).dropWhile isMargin).reverse

/-- A hexadecimal number with an optional sign and prefix, margins around it allowed. -/
def number? (cs : List Char) : Option Nat :=
  let cs := stripMargins cs
  let cs := if cs.head? = some '+' then cs.drop 1 else cs
  match cs with
  | z :: x :: rest =>
    if isZero z ∧ (x = 'x' ∨ x = 'X') then
      let rest := if rest.head? = some '_' then rest.drop 1 else rest
      if rest.isEmpty ∨ rest.head? = some '_' then none else digits? 0 rest
    else if z = '_' then none
    else digits? 0 cs
  | [c] => digit? c
  | [] => none

/-- The number of a UUID in any of the usual notations. -/
def read? (cs : List Char) : Option Nat :=
  let digits := (stripBraces (removeUuid (removeUrn (trim cs)))).filter (· != '-')
  if digits.length = 32 then number? digits else none

def write (n : Nat) : List Char :=
  let cs := hexDigits 32 n
  let part (start count : Nat) := (cs.drop start).take count
  part 0 8 ++ '-' :: part 8 4 ++ '-' :: part 12 4 ++ '-' :: part 16 4 ++ '-' :: part 20 12

/-- The version, which only one of the variants has. -/
def version (n : Nat) : Value := if n >>> 62 % 4 = 2 then .int (n >>> 76 % 16 : Nat) else .null

end Uuid

def uuid (mode : Mode) (_ : Params) (data : Value) : Outcome :=
  match data with
  | .text s =>
    if mode.strict && !Uuid.isCanonical s.toList then refuse "Data is not a valid UUID."
    else
      match Uuid.read? s.toList with
      | some n => .ok ⟨.text (String.ofList (Uuid.write n)), Uuid.version n⟩
      | none => refuse "Data is not a valid UUID."
  | _ => refuse "Data is not a valid UUID (not a string)."

/-- The sum of the values of characters, each weighted by its place. -/
def weightedSum (value : Char → Nat) (weight : Nat → Nat) (cs : List Char) : Nat :=
  cs.zipIdx.foldl (fun sum (c, i) => sum + value c * weight i) 0

/-- The weights 1 and 3 in turn. -/
def oneThree (i : Nat) : Nat := if i % 2 = 0 then 1 else 3

namespace Isbn

/-- The value of a digit of an ISBN; an X stands for ten. -/
def digit (c : Char) : Nat := if c = 'X' then 10 else c.toNat - 48

/-- An X is allowed only at the end, and the digits weighted from 10 down sum up to a multiple of
11. -/
def valid10 (cs : List Char) : Bool :=
  !(cs.take 9).contains 'X' && weightedSum digit (10 - ·) cs % 11 == 0

/-- The digits weighted 1 and 3 in turn sum up to a multiple of 10. -/
def valid13 (cs : List Char) : Bool :=
  !cs.contains 'X' && weightedSum digit oneThree cs % 10 == 0

end Isbn

def isbn (_ : Mode) (_ : Params) (data : Value) : Outcome :=
  match data with
  | .text s =>
    let code := (s.toList.map upperAscii).filter fun c => isAsciiDigit c || c == 'X'
    if code.length = 10 then
      if Isbn.valid10 code then acceptChars code else refuse "Data is not a valid ISBN-10."
    else if code.length = 13 then
      if Isbn.valid13 code then acceptChars code else refuse "Data is not a valid ISBN-13."
    else refuse "Data is not a valid ISBN."
  | _ => refuse "Data is not a valid ISBN."

/-- Eight or thirteen digits whose sum is a multiple of 10, weighted 1 and 3 in turn from the end.
-/
def isEan (code : List Char) : Bool :=
  (code.length == 8 || code.length == 13)
    && weightedSum (·.toNat - 48) oneThree code.reverse % 10 == 0

def ean (_ : Mode) (_ : Params) (data : Value) : Outcome := do
  match data with
  | .text _ | .int _ =>
    let code := (← data.toText).toList.filter isAsciiDigit
    if isEan code then acceptChars code else refuse "Data is not a valid EAN."
  | _ => refuse "Data is not a valid EAN."

namespace Hash

/-- An algorithm as it is called in the contract. -/
structure Choice where
  name : String
  algorithm : Digest.Algorithm

def choose (s : String) : Except Failure Choice :=
  let name := onChars (fun cs => (lower (trim cs)).map fun c => if c = '-' then '_' else c) s
  match Digest.Algorithm.ofName? name with
  | some algorithm => .ok ⟨s, algorithm⟩
  | none =>
    if Digest.Algorithm.variableNames.contains name then
      .error (.malformed ("Unknown hash algorithm '" ++ s ++ "' (variable length)."))
    else .error (.malformed ("Unknown hash algorithm '" ++ s ++ "'."))

def chooseAll : List Value → Except Failure (List Choice)
  | [] => .ok []
  | .text s :: rest => do return (← choose s) :: (← chooseAll rest)
  | .bytes _ :: _ | .buffer _ :: _ => .error (.crashed .wrongKind)
  | _ :: _ => .error (.crashed .notText)

/-- The first algorithm with digests as long as the data, which has to be the source's if there is
one. -/
def find? (choices : List Choice) (source : Option (List UInt8)) (cs : List Char) : Option Choice :=
  choices.find? fun choice =>
    cs.length == 2 * choice.algorithm.size
      && source.all fun bytes => choice.algorithm.hexDigest bytes == cs.map lowerAscii

def isHex (cs : List Char) : Bool :=
  let digits := withoutLineFeed cs
  !digits.isEmpty && digits.all isHexDigit

/-- The bytes of the source; it is turned into a text only when some algorithm fits. -/
def sourceBytes (source : Value) : Except Failure (Option (List UInt8)) :=
  if source.isTrue then do return some (Utf8.encode (← source.toText).toList) else .ok none

end Hash

def hash (_ : Mode) (params : Params) (data : Value) : Outcome := do
  let names := (← params.list "algo").getD []
  require (!names.isEmpty && names.all Value.isTrue) "Empty hash algorithm."
  let choices ← Hash.chooseAll names
  match data with
  | .text s =>
    let cs := s.toList
    if !Hash.isHex cs then
      refuse "Data doesn't respect contract (not a valid non-empty hexadecimal string)."
    else if choices.any fun choice => cs.length == 2 * choice.algorithm.size then
      match Hash.find? choices (← Hash.sourceBytes (params.get "source")) cs with
      | some choice => .ok ⟨data, .text choice.name⟩
      | none => refuse "Data doesn't respect any given contract."
    else refuse "Data doesn't respect any given contract."
  | _ => refuse "Data doesn't respect contract (not a valid non-empty hexadecimal string)."

/-- The hexadecimal digits of a color, behind an optional number sign. -/
def colorDigits (cs : List Char) : List Char := if cs.head? = some '#' then cs.drop 1 else cs

def isColor (cs : List Char) : Bool :=
  let digits := withoutLineFeed (colorDigits cs)
  (digits.length == 3 || digits.length == 6) && digits.all isHexDigit

def color (_ : Mode) (_ : Params) (data : Value) : Outcome :=
  match data with
  | .text s =>
    if isColor s.toList then
      let digits := (colorDigits s.toList).map lowerAscii
      acceptChars ('#' :: if digits.length = 3 then digits.flatMap fun c => [c, c] else digits)
    else refuse "Data is not a valid hex color."
  | _ => refuse "Data is not a valid hex color."

namespace Phone

def isSeparator (c : Char) : Bool := " -.()".toList.contains c

def isShort (digits : List Char) : Bool :=
  1 ≤ digits.length && digits.length ≤ 15 && digits.all isDecimal

/-- One to fifteen digits behind `00`, a plus sign or nothing. -/
def isNumber (cs : List Char) : Bool :=
  match withoutLineFeed cs with
  | '+' :: digits => isShort digits
  | '0' :: '0' :: digits => isShort digits || isShort ('0' :: '0' :: digits)
  | digits => isShort digits

end Phone

def phone (mode : Mode) (_ : Params) (data : Value) : Outcome := do
  match data with
  | .text _ | .int _ | .float _ =>
    let cs := trim (← data.toText).toList
    let clean := cs.filter (!Phone.isSeparator ·)
    if Phone.isNumber clean then
      let text (cs : List Char) : Value := .text (String.ofList cs)
      .ok ⟨text (if mode.strict then clean else cs), text clean⟩
    else refuse "Data is not a valid phone number."
  | _ => refuse "Data is not a valid phone number."

def isSlug (cs : List Char) : Bool :=
  let cs := withoutLineFeed cs
  !cs.isEmpty && cs.all fun c => isAsciiLower c || isAsciiDigit c || c == '-'

def slug (mode : Mode) (params : Params) (data : Value) : Outcome := do
  let limits ← Limits.ofParams params
  let text ←
    match data with
    | .text s => pure s
    | v => if mode.strict || !v.isNumber then refuse "Data is not a string." else liftM v.toText
  if mode.strict && limits.tooLong text.length then
    refuse "Data doesn't respect contract (slug too long)."
  else
    let cs := limits.cut text.toList
    if limits.tooShort cs.length then refuse "Data doesn't respect contract (slug too short)."
    else if !(← params.maskAllows cs) then
      refuse "Data doesn't respect contract (slug doesn't match the given mask)."
    else
      let slug := Slug.ofText (String.ofList cs) false
      let result := if mode.strict then String.ofList cs else slug
      if isSlug result.toList then .ok ⟨.text result, .text slug⟩
      else refuse "Data is not a valid slug."

end Covenant.Check
