import Covenant.Charset.Utf
import Covenant.Text
import Covenant.Time.Moment
import Covenant.Time.Names

/-! Writing a moment by a format. -/

namespace Covenant.Time

/-- A directive as it is written: how a number is filled up, letter case, a least width and a
modifier. -/
structure Spec where
  fill : Option Char := none
  upper : Bool := false
  change : Bool := false
  width : Option Nat := none
  modifier : Option Char := none
  /-- The directive's own characters, the last first. -/
  raw : List Char := ['%']

/-- The widest a directive may be; wider ones are left out with the whole text. -/
def widthLimit : Nat := 65536

namespace Spec

def least (s : Spec) : Nat := min widthLimit (s.width.getD 0)

/-- Fills a text up to the width. -/
def pad (s : Spec) (cs : List Char) : List Char :=
  let gap := s.least - (Utf8.encode cs).length
  List.replicate gap (if s.fill = some '0' then '0' else ' ') ++ cs

/-- A number with a least count of digits; a sign stands in front of the zeros. -/
def number (s : Spec) (digits : Nat) (n : Int) : List Char :=
  let sign := if n < 0 then ['-'] else []
  let ds := Decimal.digits n.natAbs
  let gap := max digits s.least - sign.length - ds.length
  match s.fill with
  | some '-' => s.pad (sign ++ ds)
  | some '_' => List.replicate gap ' ' ++ sign ++ ds
  | _ => sign ++ List.replicate gap '0' ++ ds

/-- A number filled up with spaces, unless the directive says otherwise. -/
def spaced (s : Spec) (digits : Nat) (n : Int) : List Char :=
  number (if s.fill = some '0' ∨ s.fill = some '-' then s else { s with fill := some '_' }) digits n

def word (s : Spec) (name : String) : List Char :=
  s.pad (if s.upper || s.change then name.toList.map upperAscii else name.toList)

/-- The half of the day: capital letters unless the directive asks for a change or small ones. -/
def half (s : Spec) (small : Bool) (hour : Nat) : List Char :=
  let name := if hour < 12 then ['A', 'M'] else ['P', 'M']
  s.pad (if small || s.change then name.map lowerAscii else name)

/-- A part that is made of several directives. -/
def compound (s : Spec) (cs : List Char) : List Char :=
  s.pad (if s.upper then cs.map upperAscii else cs)

end Spec

def plainNumber (width : Nat) (n : Nat) : List Char := Spec.number {} width n

def clockText (m : Moment) : List Char :=
  plainNumber 2 m.hour ++ ':' :: plainNumber 2 m.minute ++ ':' :: plainNumber 2 m.second

def halfHour (m : Moment) : Nat := if m.hour % 12 = 0 then 12 else m.hour % 12

def shortDateText (m : Moment) : List Char :=
  plainNumber 2 m.date.month ++ '/' :: plainNumber 2 m.date.day
    ++ '/' :: plainNumber 2 (m.date.year % 100)

def weekdayName (m : Moment) : String := weekdays.getD m.date.weekday ""

def monthName (m : Moment) : String := months.getD (m.date.month - 1) ""

def longDateText (m : Moment) : List Char :=
  (short (weekdayName m)).toList ++ ' ' :: (short (monthName m)).toList
    ++ ' ' :: Spec.spaced {} 2 m.date.day ++ ' ' :: clockText m
    ++ ' ' :: plainNumber 1 m.date.year

/-- The directives that take no `E` modifier, and those that take no `O` modifier. -/
def refusesE : List Char := "aAbBhdeHIjklmMSUVgGWwDF".toList

def refusesO : List Char := "aAcCxXYDF".toList

/-- The text of a known directive. -/
def directive? (m : Moment) (s : Spec) (c : Char) : Option (List Char) :=
  if (s.modifier = some 'E' ∧ c ∈ refusesE) ∨ (s.modifier = some 'O' ∧ c ∈ refusesO) then none
  else
    match c with
    | '%' => some (s.pad ['%'])
    | 'a' => some (s.word (short (weekdayName m)))
    | 'A' => some (s.word (weekdayName m))
    | 'b' | 'h' => some (s.word (short (monthName m)))
    | 'B' => some (s.word (monthName m))
    | 'c' => some (s.compound (longDateText m))
    | 'C' => some (s.number 1 (m.date.year / 100 : Nat))
    | 'd' => some (s.number 2 m.date.day)
    | 'D' | 'x' => some (s.compound (shortDateText m))
    | 'e' => some (s.spaced 2 m.date.day)
    | 'F' =>
      some (s.compound (plainNumber 1 m.date.year ++ '-' :: plainNumber 2 m.date.month
        ++ '-' :: plainNumber 2 m.date.day))
    | 'g' => some (s.number 2 (m.date.isoWeek.1 % 100 : Nat))
    | 'G' => some (s.number 1 m.date.isoWeek.1)
    | 'H' => some (s.number 2 m.hour)
    | 'I' => some (s.number 2 (halfHour m))
    | 'j' => some (s.number 3 m.date.dayOfYear)
    | 'k' => some (s.spaced 2 m.hour)
    | 'l' => some (s.spaced 2 (halfHour m))
    | 'm' => some (s.number 2 m.date.month)
    | 'M' => some (s.number 2 m.minute)
    | 'n' => some (s.pad ['\n'])
    | 'p' => some (s.half false m.hour)
    | 'P' => some (s.half true m.hour)
    | 'r' =>
      some (s.compound (plainNumber 2 (halfHour m) ++ ':' :: plainNumber 2 m.minute
        ++ ':' :: plainNumber 2 m.second ++ ' ' :: Spec.half {} false m.hour))
    | 'R' => some (s.compound (plainNumber 2 m.hour ++ ':' :: plainNumber 2 m.minute))
    | 's' => some (s.number 1 ((m.micros - Moment.epoch) / million))
    | 'S' => some (s.number 2 m.second)
    | 't' => some (s.pad ['\t'])
    | 'T' | 'X' => some (s.compound (clockText m))
    | 'u' => some (s.number 1 (m.date.weekday + 1 : Nat))
    | 'U' => some (s.number 2 m.date.sundayWeek)
    | 'V' => some (s.number 2 m.date.isoWeek.2)
    | 'w' => some (s.number 1 ((m.date.weekday + 1) % 7 : Nat))
    | 'W' => some (s.number 2 m.date.mondayWeek)
    | 'y' => some (s.number 2 (m.date.year % 100 : Nat))
    | 'Y' => some (s.number 1 m.date.year)
    | 'z' => some []
    | 'Z' => some (s.pad [])
    | _ => none

/-- An unknown directive stands for itself. -/
def unknown (s : Spec) : List Char := s.pad s.raw.reverse

/-- The spec with one more character, if it is a flag, a digit of the width or a modifier. -/
def extend? (s : Spec) (c : Char) : Option Spec :=
  let s := { s with raw := c :: s.raw }
  if s.modifier.isSome then none
  else if c = 'E' ∨ c = 'O' then some { s with modifier := some c }
  else
    match s.width with
    | some n =>
      if isAsciiDigit c then
        some { s with width := some (min widthLimit (10 * n + (c.toNat - 48))) }
      else none
    | none =>
      if c = '_' ∨ c = '-' ∨ c = '0' then some { s with fill := some c }
      else if c = '^' then some { s with upper := true }
      else if c = '#' then some { s with change := true }
      else if isAsciiDigit c then some { s with width := some (c.toNat - 48) }
      else none

def expand (m : Moment) : Option Spec → List Char → List Char
  | none, [] => []
  | some s, [] => unknown s
  | none, '%' :: cs => expand m (some {}) cs
  | none, c :: cs => c :: expand m none cs
  | some s, c :: cs =>
    match extend? s c with
    | some s => expand m (some s) cs
    | none =>
      (directive? m s c).getD (unknown { s with raw := c :: s.raw }) ++ expand m none cs

/-- Puts in the offset, the zone's name and the microseconds; other directives stay. -/
def expandZone (m : Moment) : List Char → List Char
  | '%' :: 'z' :: cs => m.zone.elim [] (fun z => Zone.offsetText [] z.offset) ++ expandZone m cs
  | '%' :: 'Z' :: cs => m.zone.elim [] Zone.label ++ expandZone m cs
  | '%' :: 'f' :: cs => padded 6 m.micro ++ expandZone m cs
  | '%' :: c :: cs => '%' :: c :: expandZone m cs
  | c :: cs => c :: expandZone m cs
  | [] => []

/-- The room for a text: 1024 bytes, doubled until it is 256 times the length of the format. -/
def roomFor (formatLength : Nat) : Nat → Nat → Nat
  | 0, room => room
  | fuel + 1, room =>
    if 256 * formatLength ≤ room then room else roomFor formatLength fuel (2 * room)

/-- The moment written by a format, which ends at a null character. A text that does not fit is
empty. -/
def write (format : List Char) (m : Moment) : List Char :=
  let format := expandZone m (format.takeWhile (· != Char.ofNat 0))
  let cs := expand m none format
  let length := (Utf8.encode format).length
  if (Utf8.encode cs).length < roomFor length length 1024 then cs else []

end Covenant.Time
