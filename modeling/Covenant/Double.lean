namespace Covenant

/-- The rank of infinity: the ranks below it count the finite magnitudes in increasing order. -/
def infinityRank : Nat := 0x7FF0000000000000

/-- A binary64 number: not a number, or a sign and the rank of its magnitude.
Rank 0 is zero, each next rank the next larger number, and the last rank infinity. -/
inductive Double where
  | nan
  | number (negative : Bool) (rank : Fin (infinityRank + 1))
  deriving DecidableEq, Inhabited

namespace Double

/-- The number of units of `2 ^ -1074` in one. -/
def unitsOfOne : Nat := Nat.pow 2 1074

/-- The magnitude of a rank, counted in units of `2 ^ -1074`. -/
def units (rank : Nat) : Nat :=
  let binade := Nat.pow 2 52
  if rank < binade then rank else (binade + rank % binade) * Nat.pow 2 (rank / binade - 1)

/-- The last rank whose magnitude is at most the given number of units. -/
def floorRank (n : Nat) : Nat :=
  let rank :=
    if n < Nat.pow 2 53 then n
    else
      let shift := n.log2 - 52
      shift * Nat.pow 2 52 + n / Nat.pow 2 shift
  min rank infinityRank

def ofRank (negative : Bool) (rank : Nat) : Double :=
  .number negative ⟨min rank infinityRank, Nat.lt_succ_of_le (Nat.min_le_right ..)⟩

def zero : Double := ofRank false 0

def infinity (negative : Bool) : Double := ofRank negative infinityRank

/-- The number nearest to `num / den` units of `2 ^ -1074`; a tie goes to the even rank. -/
def nearestUnits (negative : Bool) (num den : Nat) : Double :=
  let below := floorRank (num / den)
  let twice := 2 * num
  let middle := (units below + units (below + 1)) * den
  if infinityRank ≤ below then infinity negative
  else if twice < middle then ofRank negative below
  else if middle < twice then ofRank negative (below + 1)
  else ofRank negative (below + below % 2)

/-- The number nearest to `num / den`. -/
def nearest (negative : Bool) (num den : Nat) : Double :=
  nearestUnits negative (num * unitsOfOne) den

def ofInt (i : Int) : Double := nearest (decide (i < 0)) i.natAbs 1

def isFinite : Double → Bool
  | nan => false
  | number _ rank => decide (rank.val < infinityRank)

def isNaN : Double → Bool
  | nan => true
  | _ => false

/-- The nearest number, unless it is infinite. -/
def ofInt? (i : Int) : Option Double :=
  let x := ofInt i
  if x.isFinite then some x else none

/-- The position of a number in the order of all numbers; both zeros are at 0. -/
def key : Double → Option Int
  | nan => none
  | number negative rank => some (if negative then -(rank.val : Int) else rank.val)

def lt (x y : Double) : Bool :=
  match x.key, y.key with
  | some a, some b => decide (a < b)
  | _, _ => false

def le (x y : Double) : Bool :=
  match x.key, y.key with
  | some a, some b => decide (a ≤ b)
  | _, _ => false

/-- Numeric equality: the zeros are equal, and not-a-number differs from itself. -/
def eq (x y : Double) : Bool :=
  match x.key, y.key with
  | some a, some b => decide (a = b)
  | _, _ => false

def max (x y : Double) : Double := if x.lt y then y else x

def min (x y : Double) : Double := if y.lt x then y else x

def isZero (x : Double) : Bool := x.key == some 0

def isInteger : Double → Bool
  | nan => false
  | number _ rank => decide (rank.val < infinityRank) && units rank.val % unitsOfOne == 0

/-- The integer part of a finite number, toward zero. -/
def truncate? : Double → Option Int
  | nan => none
  | number negative rank =>
    if rank.val < infinityRank then
      let n : Int := units rank.val / unitsOfOne
      some (if negative then -n else n)
    else none

/-- Exact equality with an integer. -/
def eqInt (x : Double) (i : Int) : Bool := x.isInteger && x.truncate? == some i

/-- The rounded product with a power of two. -/
def scale (x : Double) (exponent : Nat) : Double :=
  match x with
  | nan => nan
  | number negative rank =>
    if rank.val < infinityRank then nearestUnits negative (units rank.val * Nat.pow 2 exponent) 1
    else x

end Double
end Covenant
