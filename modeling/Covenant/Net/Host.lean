import Covenant.Charset.Utf
import Covenant.Net.Ip
import Covenant.Net.Label

/-! Hosts as they stand in URLs. -/

namespace Covenant.Net.Host

/-- The bytes of a text, each `%` with two hexadecimal digits being one byte. -/
def percentDecode : List Char → List UInt8
  | '%' :: a :: b :: cs =>
    if isHexDigit a && isHexDigit b then byte (hexNumber [a, b]) :: percentDecode cs
    else 0x25 :: percentDecode (a :: b :: cs)
  | c :: cs => Utf8.encodeChar c ++ percentDecode cs
  | [] => []

/-- ASCII characters that a domain must not have. -/
def isDenied (c : Char) : Bool :=
  c.toNat ≤ 32 || c.toNat == 127 || "%#/:<>?@[\\]^|".toList.contains c

/-- Whether all characters of a decoded label are as the mapping leaves them. -/
def isMapped (cs : List Char) : Bool :=
  Normalize.nfc cs == cs && cs.all fun c => mapHostChar? c == some [c]

def joinersFit (cs : List Char) : Bool :=
  allFitting
    (fun before c after => !(c.toNat == 0x200C || c.toNat == 0x200D) || fitsContext before c after)
    [] cs

/-- The characters that a label of a mapped domain stands for, unless it breaks a rule. -/
def label? (cs : List Char) : Option (List Char) :=
  if cs.take 4 = acePrefix then
    (Punycode.decode? (cs.drop 4)).bind fun decoded =>
      if !isAscii decoded && isMapped decoded && !decoded.head?.any isMark && joinersFit decoded
      then some decoded else none
  else if !cs.head?.any isMark && joinersFit cs then some cs
  else none

/-- In a domain with text from the right, every label has to keep to the rules on directions. ASCII
has no such text. -/
def directionsFit (labels : List (List Char)) : Bool :=
  let directions := labels.map fun cs => cs.filterMap Direction.ofChar?
  labels.all isAscii || !directions.any (·.any Direction.isRightward)
    || directions.all fun ds => ds.isEmpty || Direction.consistent ds

/-- The mapped form of a domain. -/
def domain? (cs : List Char) : Option (List Char) := do
  let cs ← Utf8.decode? (percentDecode cs)
  let mapped ← mapHost? cs
  let labels ← (splitWhere (· == '.') mapped).mapM label?
  if !mapped.any isDenied && directionsFit labels then some mapped else none

/-- A part of an IPv4 address: hexadecimal behind `0x`, octal behind `0`, else decimal. -/
def ipv4Number? (cs : List Char) : Option Nat :=
  match cs with
  | [] => none
  | '0' :: x :: digits =>
    if x = 'x' ∨ x = 'X' then if digits.all isHexDigit then some (hexNumber digits) else none
    else if (x :: digits).all fun c => 48 ≤ c.toNat && c.toNat ≤ 55 then
      some ((x :: digits).foldl (fun n c => 8 * n + (c.toNat - 48)) 0)
    else none
  | digits => if digits.all isAsciiDigit then some (hexlessNumber digits) else none
where
  hexlessNumber (digits : List Char) : Nat := digits.foldl (fun n c => 10 * n + (c.toNat - 48)) 0

/-- The parts between dots, an empty one at the end left out. -/
def dottedParts (cs : List Char) : List (List Char) :=
  let parts := splitWhere (· == '.') cs
  if parts.getLast? = some [] then parts.dropLast else parts

/-- Whether a domain is read as an IPv4 address. -/
def endsInNumber (cs : List Char) : Bool :=
  (dottedParts cs).getLast?.any fun last =>
    (!last.isEmpty && last.all isAsciiDigit) || (ipv4Number? last).isSome

/-- At most four numbers, of which the last fills up what the others leave of 32 bits. -/
def isIpv4 (cs : List Char) : Bool :=
  match (dottedParts cs).mapM ipv4Number? with
  | some numbers =>
    let last := numbers.getLastD 0
    numbers.length ≤ 4 && last < Nat.pow 256 (5 - numbers.length) && numbers.dropLast.all (· < 256)
  | none => false

/-- The inside of an address in brackets. -/
def bracketed? (cs : List Char) : Option (List Char) :=
  if cs.head? = some '[' then
    if cs.getLast? = some ']' then some ((cs.drop 1).dropLast) else some []
  else none

/-- Whether a host is one of a scheme with known rules. -/
def isSpecial (cs : List Char) : Bool :=
  match bracketed? cs with
  | some address => isIpv6 address
  | none =>
    match domain? cs with
    | some [] => false
    | some domain => if endsInNumber domain then isIpv4 domain else true
    | none => false

def isOpaqueDenied (c : Char) : Bool :=
  c.toNat == 0 || "\t\n\r #/:<>?@[\\]^|".toList.contains c

/-- Whether a host is one of any other scheme. -/
def isOpaque (cs : List Char) : Bool :=
  match bracketed? cs with
  | some address => isIpv6 address
  | none => !cs.isEmpty && !cs.any isOpaqueDenied

/-- A letter and a colon or a bar, which stand for a drive. -/
def isDrive (cs : List Char) : Bool :=
  match cs with
  | [a, b] => isAsciiLetter a && (b == ':' || b == '|')
  | _ => false

/-- Whether a host is one of a file; the local host counts as none. -/
def isFileHost (cs : List Char) : Bool :=
  !cs.isEmpty && !isDrive cs && isSpecial cs && domain? cs != some "localhost".toList

end Covenant.Net.Host
