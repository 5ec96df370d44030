import Covenant.Check.Basic
import Covenant.Time.Overflow
import Covenant.Time.Reader
import Covenant.Time.Writer

/-! Dates, times of day, and both together. -/

namespace Covenant.Check

/-- What a kind of moment is called, and its format when none is given. -/
structure Temporal where
  label : String
  format : String

namespace Temporal

def datetime : Temporal := ⟨"date/time", "%Y-%m-%d %H:%M:%S"⟩

def date : Temporal := ⟨"date", "%Y-%m-%d"⟩

def time : Temporal := ⟨"time", "%H:%M:%S"⟩

/-- A fraction of a second, given in units of `2 ^ -1074`, rounded to microseconds; a tie is even.
-/
def roundMicros (units : Nat) : Nat :=
  match Double.nearest false (units * million) (Double.unitsOfOne) with
  | .number _ rank =>
    let n := Double.units rank
    let whole := n / Double.unitsOfOne
    let twice := 2 * (n % Double.unitsOfOne)
    if twice < Double.unitsOfOne then whole
    else if Double.unitsOfOne < twice then whole + 1
    else whole + whole % 2
  | .nan => 0

/-- The moment so many seconds after the start of 1970. -/
def ofSeconds? (x : Double) : Option Moment :=
  match x with
  | .nan => none
  | .number negative rank =>
    if infinityRank ≤ rank.val then none
    else
      let n := Double.units rank.val
      let whole := n / Double.unitsOfOne
      if Nat.pow 10 15 < whole then none
      else
        let micros : Int := (whole * million + roundMicros (n % Double.unitsOfOne) : Nat)
        Moment.ofMicros? (Moment.epoch + if negative then -micros else micros) (some .utc)

/-- A timestamp; an integer that no number is near to is none. -/
def ofTimestamp? : Value → Option Moment
  | .int i => (Double.ofInt? i).bind ofSeconds?
  | .float x => ofSeconds? x
  | .text s => (Numeral.read? (trim s.toList)).bind fun n => ofSeconds? n.toDouble
  | _ => none

/-- The format a parameter gives, if it gives one. -/
def formatOr (value default : Value) : Value := if value.isTrue then value else default

def formatChars (format : Value) : Except Failure (List Char) :=
  match format with
  | .text s => .ok s.toList
  | _ => .error (.crashed .wrongKind)

def readExact (format : Value) (s : String) : Except Failure (Option Moment) := do
  Time.read (← formatChars format) s.toList

/-- Reads a text. Strictly, it has to be what its moment is written as; loosely, fields may
overflow. -/
def readText (strict : Bool) (format : Value) (s : String) : Except Failure (Option Moment) := do
  let cs ← formatChars format
  match ← Time.read cs s.toList with
  | some m => return if strict && Time.write cs m != s.toList then none else some m
  | none => return if strict then none else Time.Overflow.read? cs (trim s.toList)

/-- A bound on moments, written by the input format or as a timestamp. -/
def bound (t : Temporal) (value format : Value) (label : String) :
    Except Failure (Option Moment) := do
  if value.isAbsent then return none
  let moment ←
    match value with
    | .text s => readExact format s
    | v => .ok (ofTimestamp? v)
  match moment with
  | some m => return some m
  | none =>
    .error (.malformed (label ++ " value is not a valid " ++ t.label ++ ", or bad input format."))

/-- What is known about a moment. -/
def components (m : Moment) : Value :=
  let number (n : Nat) : Value := .int n
  let seconds := (Double.nearest (decide (m.sinceEpoch < 0)) m.sinceEpoch.natAbs million).truncate?
  .map
    [(.text "iso", .text (String.ofList m.iso)),
      (.text "timestamp", .int (seconds.getD 0)),
      (.text "timezone", m.zone.elim .null fun z => .text (String.ofList z.label)),
      (.text "offset", .int (m.zone.elim 0 fun z => z.offset.tdiv million)),
      (.text "year", number m.date.year), (.text "month", number m.date.month),
      (.text "day", number m.date.day), (.text "hour", number m.hour),
      (.text "minute", number m.minute), (.text "second", number m.second),
      (.text "micro", number m.micro)]

def readData (strict : Bool) (format data : Value) : Except Failure (Option Moment) :=
  match data with
  | .text s =>
    if data.isNumeric then do
      match ← readText true format s with
      | some m => return some m
      | none => return ofTimestamp? data
    else readText strict format s
  | v => .ok (ofTimestamp? v)

def isBefore (a b : Moment) : Bool := a.sinceEpoch < b.sinceEpoch

def finish (format : Value) (m : Moment) : Outcome := do
  let cs ← formatChars format
  return ⟨.text (String.ofList (Time.write cs m)), components m⟩

/-- Holds a moment to its latest one. -/
def upTo (t : Temporal) (mode : Mode) (most : Option Moment) (format : Value) (m : Moment) :
    Outcome :=
  match most with
  | some latest =>
    if isBefore latest m then
      if mode.strict then refuse ("Data doesn't respect contract (" ++ t.label ++ " too late).")
      else finish format latest
    else finish format m
  | none => finish format m

def check (t : Temporal) (mode : Mode) (params : Params) (data : Value) : Outcome := do
  let format := formatOr (params.get "format") (.text t.format)
  let input := formatOr (params.get "inFormat") format
  let output := formatOr (params.get "outFormat") format
  let least ← t.bound (params.get "min") input "Min"
  let most ← t.bound (params.get "max") input "Max"
  match data with
  | .int _ | .float _ | .text _ =>
    match ← readData mode.strict input data with
    | none => refuse ("Data is not a valid " ++ t.label ++ ", or bad input format.")
    | some m =>
      match least with
      | some earliest =>
        if isBefore m earliest then
          if mode.strict then
            refuse ("Data doesn't respect contract (" ++ t.label ++ " too early).")
          else t.upTo mode most output earliest
        else t.upTo mode most output m
      | none => t.upTo mode most output m
  | _ => refuse ("Data is not a valid " ++ t.label ++ " (not a string or a number).")

end Temporal
end Covenant.Check
