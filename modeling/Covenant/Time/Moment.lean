import Covenant.Decimal.Shortest
import Covenant.Time.Calendar

namespace Covenant

/-- An offset from UTC in microseconds, with the name it was given. -/
structure Zone where
  offset : Int
  name : Option String
  deriving DecidableEq

/-- A date and time of day, with a zone when one is known. -/
structure Moment where
  date : Date
  hour : Nat
  minute : Nat
  second : Nat
  micro : Nat
  zone : Option Zone
  deriving DecidableEq

def million : Nat := 1000000

def dayMicros : Nat := 86400 * million

/-- A number with zeros in front up to the given width. -/
def padded (width n : Nat) : List Char := Decimal.pad width (Decimal.digits n)

namespace Zone

def utc : Zone := ⟨0, none⟩

/-- An offset as hours and minutes, and seconds and a fraction where they are not zero. -/
def offsetText (sep : List Char) (offset : Int) : List Char :=
  let n := offset.natAbs
  let seconds := n / million
  let sign := if offset < 0 then '-' else '+'
  let clock := sign :: padded 2 (seconds / 3600) ++ sep ++ padded 2 (seconds / 60 % 60)
  if n % million ≠ 0 then
    clock ++ sep ++ padded 2 (seconds % 60) ++ '.' :: padded 6 (n % million)
  else if seconds % 60 ≠ 0 then clock ++ sep ++ padded 2 (seconds % 60)
  else clock

/-- The name of a zone; without a given one it is made from the offset. -/
def label (z : Zone) : List Char :=
  match z.name with
  | some name => name.toList
  | none =>
    if z.offset = 0 then "UTC".toList else "UTC".toList ++ offsetText [':'] z.offset

end Zone

namespace Moment

/-- The microseconds on the clock of the moment's own zone, counted from a fixed day. -/
def micros (m : Moment) : Int :=
  (((m.date.ordinal * 24 + m.hour) * 60 + m.minute) * 60 + m.second) * million + m.micro

def epoch : Int := (Date.ordinal ⟨1970, 1, 1⟩ : Int) * dayMicros

/-- The microseconds since 1970 in UTC; a moment without a zone is read as UTC. -/
def sinceEpoch (m : Moment) : Int := m.micros - (m.zone.elim 0 (·.offset)) - epoch

def ofMicros? (n : Int) (zone : Option Zone) : Option Moment :=
  (Date.ofOrdinal? (n / dayMicros)).map fun date =>
    let rest := (n % dayMicros).toNat
    let seconds := rest / million
    { date := date, hour := seconds / 3600, minute := seconds / 60 % 60, second := seconds % 60
      micro := rest % million, zone := zone }

def ofClock? (date : Date) (hour minute second micro : Nat) (zone : Option Zone) : Option Moment :=
  if hour < 24 ∧ minute < 60 ∧ second < 60 ∧ micro < million then
    some ⟨date, hour, minute, second, micro, zone⟩
  else none

/-- The moment in ISO 8601, cut to milliseconds. -/
def iso (m : Moment) : List Char :=
  padded 4 m.date.year ++ '-' :: padded 2 m.date.month ++ '-' :: padded 2 m.date.day
    ++ 'T' :: padded 2 m.hour ++ ':' :: padded 2 m.minute ++ ':' :: padded 2 m.second
    ++ '.' :: padded 3 (m.micro / 1000)
    ++ m.zone.elim [] fun z => Zone.offsetText [':'] z.offset

end Moment
end Covenant
