import Covenant.Decimal.Numeral
import Covenant.Failure
import Covenant.Mask.Matcher
import Covenant.Time.Moment
import Covenant.Time.Names

/-! Reading a moment from a text laid out by a format. -/

namespace Covenant.Time

/-- A place for one character. -/
inductive Slot where
  | digit
  | among (low high : Char)
  | letter (c : Char)
  | exactly (c : Char)
  | sign
  deriving DecidableEq

def sameLetter (a b : Char) : Bool := Mask.sameCode { ignoreCase := true } a.toNat b.toNat

def Slot.allows (c : Char) : Slot → Bool
  | digit => isDecimal c
  | among low high => low ≤ c && c ≤ high
  | letter a => sameLetter a c
  | exactly a => a == c
  | sign => c == '+' || c == '-'

/-- A directive that reads something. -/
inductive Field where
  | year
  | shortYear
  | isoYear
  | month
  | monthName
  | monthShort
  | day
  | hour
  | halfHour
  | half
  | minute
  | second
  | micro
  | weekdayName
  | weekdayShort
  | weekdayFromSunday
  | weekdayFromMonday
  | dayOfYear
  | sundayWeek
  | mondayWeek
  | isoWeek
  | offset
  | zoneName
  deriving DecidableEq

namespace Field

def ofLetter? : Char → Option Field
  | 'Y' => some year
  | 'y' => some shortYear
  | 'G' => some isoYear
  | 'm' => some month
  | 'B' => some monthName
  | 'b' => some monthShort
  | 'd' => some day
  | 'H' => some hour
  | 'I' => some halfHour
  | 'p' => some half
  | 'M' => some minute
  | 'S' => some second
  | 'f' => some micro
  | 'A' => some weekdayName
  | 'a' => some weekdayShort
  | 'w' => some weekdayFromSunday
  | 'u' => some weekdayFromMonday
  | 'j' => some dayOfYear
  | 'U' => some sundayWeek
  | 'W' => some mondayWeek
  | 'V' => some isoWeek
  | 'z' => some offset
  | 'Z' => some zoneName
  | _ => none

def words (names : List String) : List (List Slot) :=
  names.map fun name => name.toList.map Slot.letter

def fraction (slot : Slot) : List (List Slot) :=
  [6, 5, 4, 3, 2, 1].map fun n => List.replicate n slot

/-- The seconds of an offset, with or without a fraction, if there are any. -/
def offsetSeconds : List (List Slot) :=
  let base (colon : List Slot) := colon ++ [.among '0' '5', .digit]
  let full (colon : List Slot) : List (List Slot) :=
    (fraction .digit).map (fun f => base colon ++ .exactly '.' :: f) ++ [base colon]
  full [.exactly ':'] ++ full [] ++ [[]]

def offsetShapes : List (List Slot) :=
  let start (colon : List Slot) : List Slot :=
    [.sign, .digit, .digit] ++ colon ++ [.among '0' '5', .digit]
  offsetSeconds.map (start [.exactly ':'] ++ ·) ++ offsetSeconds.map (start [] ++ ·)
    ++ [[.exactly 'Z']]

/-- What a directive reads, in the order in which it is tried. -/
def shapes : Field → List (List Slot)
  | year | isoYear => [[.digit, .digit, .digit, .digit]]
  | shortYear => [[.digit, .digit]]
  | month => [[.exactly '1', .among '0' '2'], [.exactly '0', .among '1' '9'], [.among '1' '9']]
  | day =>
    [[.exactly '3', .among '0' '1'], [.among '1' '2', .digit], [.exactly '0', .among '1' '9'],
      [.among '1' '9'], [.exactly ' ', .among '1' '9']]
  | hour => [[.exactly '2', .among '0' '3'], [.among '0' '1', .digit], [.digit]]
  | halfHour =>
    [[.exactly '1', .among '0' '2'], [.exactly '0', .among '1' '9'], [.among '1' '9']]
  | minute => [[.among '0' '5', .digit], [.digit]]
  | second => [[.exactly '6', .among '0' '1'], [.among '0' '5', .digit], [.digit]]
  | micro => fraction (.among '0' '9')
  | dayOfYear =>
    [[.exactly '3', .exactly '6', .among '0' '6'], [.exactly '3', .among '0' '5', .digit],
      [.among '1' '2', .digit, .digit], [.exactly '0', .among '1' '9', .digit],
      [.exactly '0', .exactly '0', .among '1' '9'], [.among '1' '9', .digit],
      [.exactly '0', .among '1' '9'], [.among '1' '9']]
  | sundayWeek | mondayWeek =>
    [[.exactly '5', .among '0' '3'], [.among '0' '4', .digit], [.digit]]
  | isoWeek =>
    [[.exactly '5', .among '0' '3'], [.exactly '0', .among '1' '9'], [.among '1' '4', .digit],
      [.digit]]
  | weekdayFromSunday => [[.among '0' '6']]
  | weekdayFromMonday => [[.among '1' '7']]
  | weekdayName => words weekdays
  | weekdayShort => words (weekdays.map short)
  | monthName => words months
  | monthShort => words (months.map short)
  | half => words ["am", "pm"]
  | zoneName => words ["utc", "gmt"]
  | offset => offsetShapes

end Field

/-- The characters at the start of a text that fill the slots, and the rest. -/
def fill? : List Slot → List Char → Option (List Char × List Char)
  | [], cs => some ([], cs)
  | slot :: slots, c :: cs =>
    if slot.allows c then (fill? slots cs).map fun (taken, rest) => (c :: taken, rest) else none
  | _ :: _, [] => none

/-- A part of a format. -/
inductive Part where
  | char (c : Char)
  | blanks
  | field (f : Field)
  deriving DecidableEq

/-- The parts of a format whose every directive is known; a run of blanks is one part. -/
def parts? : Bool → List Char → Option (List Part)
  | _, [] => some []
  | _, '%' :: 'c' :: cs => (parts? false cs).map (longDate ++ ·)
  | _, '%' :: 'x' :: cs => (parts? false cs).map (shortDate ++ ·)
  | _, '%' :: 'X' :: cs => (parts? false cs).map (clock ++ ·)
  | _, '%' :: '%' :: cs => (parts? false cs).map (.char '%' :: ·)
  | _, '%' :: d :: cs =>
    (Field.ofLetter? d).bind fun f => (parts? false cs).map (.field f :: ·)
  | _, ['%'] => none
  | afterBlank, c :: cs =>
    if isBlank c then
      (parts? true cs).map fun ps => if afterBlank then ps else .blanks :: ps
    else (parts? false cs).map (.char c :: ·)
where
  clock : List Part := [.field .hour, .char ':', .field .minute, .char ':', .field .second]
  shortDate : List Part :=
    [.field .month, .char '/', .field .day, .char '/', .field .shortYear]
  longDate : List Part :=
    [.field .weekdayShort, .blanks, .field .monthShort, .blanks, .field .day, .blanks]
      ++ clock ++ [.blanks, .field .year]

def fieldsOf (parts : List Part) : List Field :=
  parts.filterMap fun
    | .field f => some f
    | _ => none

/-- The rests of a text behind one or more blanks, behind all of them first. -/
def afterBlanks : List Char → List (List Char)
  | [] => []
  | c :: cs => if isBlank c then afterBlanks cs ++ [cs] else []

/-- What each field reads, and the rest of the text: the first way in which all parts fit. -/
def matchParts : List Part → List Char → Option (List (Field × List Char) × List Char)
  | [], cs => some ([], cs)
  | .char a :: parts, cs =>
    match cs with
    | c :: rest => if sameLetter a c then matchParts parts rest else none
    | [] => none
  | .blanks :: parts, cs => (afterBlanks cs).findSome? (matchParts parts)
  | .field f :: parts, cs =>
    (f.shapes.filterMap (fill? · cs)).findSome? fun (taken, rest) =>
      (matchParts parts rest).map fun (found, rest) => ((f, taken) :: found, rest)

/-- What the fields say, as far as it has been read. -/
structure Reading where
  year : Option Nat := none
  isoYear : Option Nat := none
  month : Nat := 1
  day : Nat := 1
  hour : Nat := 0
  minute : Nat := 0
  second : Nat := 0
  micro : Nat := 0
  weekday : Option Nat := none
  dayOfYear : Option Nat := none
  /-- Whether weeks start on Monday, and the number of the week. -/
  week : Option (Bool × Nat) := none
  isoWeek : Option Nat := none
  offset : Option Int := none
  zoneName : Option String := none

def number (cs : List Char) : Nat := Numeral.ofDigits (cs.filterMap decimalDigit?)

/-- Digits as a fraction of a million. -/
def microsOf (cs : List Char) : Nat := number (cs ++ List.replicate (6 - cs.length) '0')

/-- The place of a name in a list, letter case apart. -/
def placeOf? (names : List String) (cs : List Char) : Option Nat :=
  names.findIdx? fun name => name.toList.map lowerAscii == lower cs

/-- An offset in microseconds; colons stand at both places or at none. -/
def offset? : List Char → Option Int
  | ['Z'] => some 0
  | sign :: a :: b :: rest => do
    let (minutes, more) ←
      match rest with
      | [':', c, d] => some ([c, d], [])
      | ':' :: c :: d :: ':' :: more => some ([c, d], more)
      | ':' :: _ => none
      | c :: d :: more => some ([c, d], more)
      | _ => none
    let seconds ← if more.isEmpty then some 0 else Numeral.natural? (more.take 2)
    let total := (number [a, b] * 60 + number minutes) * 60 + seconds
    let n : Int := total * million + microsOf (more.drop 3)
    return if sign = '-' then -n else n
  | _ => none

/-- An hour of the half day before or after noon. -/
def fullHour (half : List Char) (hour : Nat) : Nat :=
  if lower half == ['p', 'm'] then (if hour = 12 then 12 else hour + 12)
  else if hour = 12 then 0 else hour

def readField (half : List Char) (r : Reading) (field : Field) (cs : List Char) : Option Reading :=
  let n := number cs
  match field with
  | .year => some { r with year := some n }
  | .shortYear => some { r with year := some (if n ≤ 68 then 2000 + n else 1900 + n) }
  | .isoYear => some { r with isoYear := some n }
  | .month => some { r with month := n }
  | .monthName => (placeOf? months cs).map fun i => { r with month := i + 1 }
  | .monthShort => (placeOf? (months.map short) cs).map fun i => { r with month := i + 1 }
  | .day => some { r with day := n }
  | .hour => some { r with hour := n }
  | .halfHour => some { r with hour := fullHour half n }
  | .half => some r
  | .minute => some { r with minute := n }
  | .second => some { r with second := n }
  | .micro => some { r with micro := microsOf cs }
  | .weekdayName => (placeOf? weekdays cs).map fun i => { r with weekday := some i }
  | .weekdayShort => (placeOf? (weekdays.map short) cs).map fun i => { r with weekday := some i }
  | .weekdayFromSunday => some { r with weekday := some ((n + 6) % 7) }
  | .weekdayFromMonday => some { r with weekday := some (n - 1) }
  | .dayOfYear => some { r with dayOfYear := some n }
  | .sundayWeek => some { r with week := some (false, n) }
  | .mondayWeek => some { r with week := some (true, n) }
  | .isoWeek => some { r with isoWeek := some n }
  | .offset => (offset? cs).map fun i => { r with offset := some i }
  | .zoneName => some { r with zoneName := some (String.ofList cs) }

/-- The day of a year that a week and a weekday name; it may lie in a neighbouring year. -/
def weekDay (year : Nat) (startsMonday : Bool) (week weekday : Nat) : Int :=
  let first := (Date.daysBefore year) % 7
  let first := if startsMonday then first else (first + 1) % 7
  let day := if startsMonday then weekday else (weekday + 1) % 7
  if week = 0 then 1 + (day : Int) - first
  else 1 + ((7 - first) % 7 + 7 * (week - 1) + day : Nat)

/-- The same for a week of the year its Thursday lies in. -/
def isoWeekDay (year week weekday : Nat) : Int :=
  let fourth := (Date.daysBefore year + 3) % 7 + 1
  (week * 7 + weekday + 1 : Nat) - (fourth + 3 : Nat)

/-- A day of a year counted from 1, also beyond its ends. -/
def dayIn? (year : Nat) (day : Int) : Option Date :=
  if 1 ≤ year ∧ year ≤ Date.lastYear then Date.ofOrdinal? (Date.daysBefore year + day) else none

namespace Reading

/-- The year that is assumed when none is given; the second is for the 29th of February. -/
def defaultYear : Nat := 1900

def defaultLeapYear : Nat := 1904

/-- An ISO year goes with an ISO week and a weekday, and neither goes without the other. -/
def isoComplete (r : Reading) : Bool :=
  match r.isoYear with
  | some _ => r.dayOfYear.isNone && r.isoWeek.isSome && r.weekday.isSome
  | none => r.isoWeek.isNone

def dateIn? (r : Reading) (year : Nat) : Option Date :=
  match r.dayOfYear, r.weekday, r.week, r.isoYear, r.isoWeek with
  | some day, _, _, _, _ => dayIn? year day
  | none, some weekday, some (monday, week), _, _ => dayIn? year (weekDay year monday week weekday)
  | none, some weekday, none, some isoYear, some week =>
    dayIn? isoYear (isoWeekDay isoYear week weekday)
  | _, _, _, _, _ => Date.ofParts? year r.month r.day

def date? (r : Reading) : Option Date :=
  if !r.isoComplete then none
  else
    match r.year with
    | some year => r.dateIn? year
    | none =>
      if r.month = 2 ∧ r.day = 29 then
        (r.dateIn? defaultLeapYear).bind fun d => Date.ofParts? defaultYear d.month d.day
      else r.dateIn? defaultYear

def zone? (r : Reading) : Option (Option Zone) :=
  match r.offset with
  | none => some none
  | some offset =>
    if offset.natAbs < dayMicros then some (some ⟨offset, r.zoneName⟩) else none

def moment? (r : Reading) : Option Moment := do
  Moment.ofClock? (← r.date?) r.hour r.minute r.second r.micro (← r.zone?)

end Reading

def readFields (half : List Char) : Reading → List (Field × List Char) → Option Reading
  | r, [] => some r
  | r, (f, cs) :: rest => (readField half r f cs).bind fun r => readFields half r rest

/-- Reads a text that is laid out by a format, if it is; a field must not come twice in the format.
-/
def read (format text : List Char) : Except Failure (Option Moment) :=
  match parts? false format with
  | none => .ok none
  | some parts =>
    if (fieldsOf parts).Nodup then
      match matchParts parts text with
      | some (found, []) =>
        let half := ((found.find? (·.1 == Field.half)).map (·.2)).getD []
        .ok ((readFields half {} found).bind Reading.moment?)
      | _ => .ok none
    else .error (.crashed .repeatedField)

end Covenant.Time
