import Covenant.Failure
import Covenant.Text

/-! One record of comma-separated fields, quoted where they hold commas. -/

namespace Covenant.Record

/-- A longer field is refused. -/
def fieldLimit : Nat := 131072

/-- Where the reader stands. -/
inductive Place where
  | start
  | field
  | plain
  | escaped
  | afterBreak
  | quoted
  | quotedEscape
  | quoteInQuoted
  | ended
  deriving DecidableEq

/-- The fields read so far and the characters of the open one, both in reverse. -/
structure State where
  place : Place := .start
  fields : List (List Char) := []
  chars : List Char := []

namespace State

def add (s : State) (place : Place) (c : Char) : State :=
  { s with place := place, chars := c :: s.chars }

def close (s : State) (place : Place) : State :=
  { place := place, fields := s.chars.reverse :: s.fields, chars := [] }

end State

def isBreak (c : Char) : Bool := c == '\n' || c == '\r'

def stepField (s : State) (c : Char) : State :=
  if isBreak c then s.close .ended
  else if c = '"' then { s with place := .quoted }
  else if c = '\\' then { s with place := .escaped }
  else if c = ' ' then { s with place := .field }
  else if c = ',' then s.close .field
  else s.add .plain c

def stepPlain (s : State) (c : Char) : State :=
  if isBreak c then s.close .ended
  else if c = '\\' then { s with place := .escaped }
  else if c = ',' then s.close .field
  else s.add .plain c

/-- One character; nothing but further line breaks may follow a line break outside quotes. -/
def step (s : State) (c : Char) : Option State :=
  match s.place with
  | .start => some (if isBreak c then { s with place := .ended } else stepField s c)
  | .field => some (stepField s c)
  | .plain | .afterBreak => some (stepPlain s c)
  | .escaped => some (s.add (if isBreak c then .afterBreak else .plain) c)
  | .quoted =>
    some (if c = '\\' then { s with place := .quotedEscape }
      else if c = '"' then { s with place := .quoteInQuoted }
      else s.add .quoted c)
  | .quotedEscape => some (s.add .quoted c)
  | .quoteInQuoted =>
    some (if c = '"' then s.add .quoted c
      else if c = ',' then s.close .field
      else if isBreak c then s.close .ended
      else s.add .plain c)
  | .ended => if isBreak c then some s else none

/-- The fields at the end of the text; an open escape stands for a line break. -/
def finish (s : State) : List (List Char) :=
  match s.place with
  | .start | .ended => s.fields.reverse
  | .escaped | .quotedEscape => ((s.add .plain '\n').close .ended).fields.reverse
  | _ => (s.close .ended).fields.reverse

def run : State → List Char → Option State
  | s, [] => some s
  | s, c :: cs => (step s c).bind fun next => run next cs

/-- The trimmed fields of a record. -/
def split (source : String) : Except Failure (List String) :=
  match (run {} source.toList).map finish with
  | some fields =>
    if fields.any (fieldLimit < ·.length) then .error (.crashed .openLine)
    else .ok (fields.map fun field => String.ofList (trim field))
  | none => .error (.crashed .openLine)

end Covenant.Record
