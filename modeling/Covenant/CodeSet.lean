namespace Covenant

/-- A set of code points: ranges in increasing order, ends included. -/
structure CodeSet where
  ranges : Array (Nat × Nat)

/-- A partial map on code points: in the range `low` to `high`, every `step`-th code point from
`low` on goes to the one as far behind `target`. -/
structure CodeMap where
  ranges : Array (Nat × Nat × Nat × Nat)

def hexDigit? (c : Char) : Option Nat :=
  let n := c.toNat
  if 48 ≤ n ∧ n ≤ 57 then some (n - 48)
  else if 97 ≤ n ∧ n ≤ 102 then some (n - 87)
  else if 65 ≤ n ∧ n ≤ 70 then some (n - 55)
  else none

def hexNumber (cs : List Char) : Nat :=
  cs.foldl (fun n c => 16 * n + (hexDigit? c).getD 0) 0

/-- The parts of a text between separators, a separator being any character of the given class. -/
def splitWhere (sep : Char → Bool) : List Char → List (List Char)
  | [] => [[]]
  | c :: cs =>
    if sep c then [] :: splitWhere sep cs
    else
      match splitWhere sep cs with
      | part :: parts => (c :: part) :: parts
      | [] => [[c]]

/-- The parts of a table's text between spaces and line ends. -/
def words (s : String) : List (List Char) :=
  (splitWhere (fun c => c == ' ' || c == '\n') s.toList).filter (!·.isEmpty)

/-- Reads ranges written in hexadecimal, such as `30-39 41-5a 5f`. -/
def CodeSet.read (s : String) : CodeSet :=
  ⟨((words s).map fun w =>
    match splitWhere (· == '-') w with
    | [low, high] => (hexNumber low, hexNumber high)
    | _ => (hexNumber w, hexNumber w)).toArray⟩

/-- Reads one range `low-high/step>target`; without a step it has all code points between its ends,
and without a second end it is a single one. -/
def CodeMap.readRange (w : List Char) : Nat × Nat × Nat × Nat :=
  let part (sep : Char) (cs : List Char) : List Char := (cs.dropWhile (· != sep)).drop 1
  let source := w.takeWhile (· != '>')
  let target := hexNumber (part '>' w)
  let step := part '/' source
  let range := source.takeWhile (· != '/')
  let low := hexNumber (range.takeWhile (· != '-'))
  let high := part '-' range
  (low, if high.isEmpty then low else hexNumber high,
    if step.isEmpty then 1 else hexNumber step, target)

def CodeMap.read (s : String) : CodeMap := ⟨((words s).map readRange).toArray⟩

/-- The last index below `high` whose range starts at or before `n`, by halving. -/
def lastStart (start : Nat → Nat) (n : Nat) : Nat → Nat → Nat → Nat
  | 0, low, _ => low
  | fuel + 1, low, high =>
    if high ≤ low + 1 then low
    else
      let middle := (low + high) / 2
      if start middle ≤ n then lastStart start n fuel middle high
      else lastStart start n fuel low middle

def CodeSet.contains (t : CodeSet) (n : Nat) : Bool :=
  let i := lastStart (fun i => (t.ranges.getD i (0, 0)).1) n 32 0 t.ranges.size
  match t.ranges[i]? with
  | some (low, high) => low ≤ n && n ≤ high
  | none => false

def CodeMap.get? (t : CodeMap) (n : Nat) : Option Nat :=
  let i := lastStart (fun i => (t.ranges.getD i (0, 0, 1, 0)).1) n 32 0 t.ranges.size
  match t.ranges[i]? with
  | some (low, high, step, target) =>
    if low ≤ n ∧ n ≤ high ∧ (n - low) % step = 0 then some (target + (n - low)) else none
  | none => none

end Covenant
