import Covenant.Decimal.Numeral
import Covenant.Time.Moment

/-! Reading fields that may be too large, such as the 30th of February or minute 65. -/

namespace Covenant.Time.Overflow

inductive Unit where
  | year
  | month
  | day
  | hour
  | minute
  | second
  | micro
  deriving DecidableEq

namespace Unit

def ofLetter? : Char → Option Unit
  | 'Y' => some year
  | 'm' => some month
  | 'd' => some day
  | 'H' => some hour
  | 'M' => some minute
  | 'S' => some second
  | 'f' => some micro
  | _ => none

/-- The numbers of digits a field may have, the first choice first. -/
def widths : Unit → List Nat
  | year => [4]
  | micro => [6, 5, 4, 3, 2, 1]
  | _ => [2, 1]

end Unit

inductive Part where
  | char (c : Char)
  | field (u : Unit)
  deriving DecidableEq

/-- The parts of a format that has only directives for numbers. -/
def parts? : List Char → Option (List Part)
  | [] => some []
  | '%' :: '%' :: cs => (parts? cs).map (.char '%' :: ·)
  | '%' :: d :: cs => (Unit.ofLetter? d).bind fun u => (parts? cs).map (.field u :: ·)
  | ['%'] => none
  | c :: cs => (parts? cs).map (.char c :: ·)

def unitsOf (parts : List Part) : List Unit :=
  parts.filterMap fun
    | .field u => some u
    | .char _ => none

/-- The digits of each field when the parts make up the whole text. -/
def matchParts : List Part → List Char → Option (List (Unit × List Nat))
  | [], cs => if cs.isEmpty then some [] else none
  | .char a :: parts, cs =>
    match cs with
    | c :: rest => if a = c then matchParts parts rest else none
    | [] => none
  | .field u :: parts, cs =>
    let digits := (Numeral.spanDigits cs).1
    u.widths.findSome? fun n =>
      if n ≤ digits.length then
        (matchParts parts (cs.drop n)).map fun found => (u, digits.take n) :: found
      else none

def valueOf (found : List (Unit × List Nat)) (u : Unit) (default : Nat) : Nat :=
  ((found.find? (·.1 == u)).map fun entry => Numeral.ofDigits entry.2).getD default

def microsOf (found : List (Unit × List Nat)) : Nat :=
  ((found.find? (·.1 == Unit.micro)).map fun entry =>
    Numeral.ofDigits (entry.2 ++ List.replicate (6 - entry.2.length) 0)).getD 0

/-- The first day of the month that so many months after January of the year is. -/
def firstOfMonth? (year : Nat) (months : Int) : Option Date :=
  let n := (year * 12 : Nat) + months
  if 1 ≤ year then Date.ofParts? (n / 12).toNat ((n % 12).toNat + 1) 1 else none

/-- The moment the fields stand for: months are added to the year first, then all that is smaller.
-/
def moment? (found : List (Unit × List Nat)) : Option Moment := do
  let first ← firstOfMonth? (valueOf found .year 1900) ((valueOf found .month 1 : Int) - 1)
  let days : Int := first.ordinal + valueOf found .day 1 - 1
  let clock := (valueOf found .hour 0 * 60 + valueOf found .minute 0) * 60 + valueOf found .second 0
  Moment.ofMicros? (days * dayMicros + clock * million + microsOf found) none

/-- Reads a text by a format that has only directives for numbers, each at most once. -/
def read? (format text : List Char) : Option Moment := do
  let parts ← parts? format
  if (unitsOf parts).Nodup then moment? (← matchParts parts text) else none

end Covenant.Time.Overflow
