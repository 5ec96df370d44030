import Covenant.Double

namespace Covenant.Decimal

def digitChar (d : Nat) : Char := Char.ofNat ('0'.toNat + d)

def digitsAux : Nat → Nat → List Char → List Char
  | 0, _, acc => acc
  | fuel + 1, n, acc =>
    if n < 10 then digitChar n :: acc
    else digitsAux fuel (n / 10) (digitChar (n % 10) :: acc)

/-- The decimal digits of a natural number, without leading zeros. -/
def digits (n : Nat) : List Char := digitsAux (n.log2 + 1) n []

/-- `coefficient * 10 ^ exponent`, where the coefficient does not end in a zero. -/
structure Scientific where
  coefficient : Nat
  exponent : Int

/-- Drops the trailing zeros of a coefficient. -/
def strip : Nat → Nat → Int → Scientific
  | 0, c, e => ⟨c, e⟩
  | fuel + 1, c, e => if c ≠ 0 ∧ c % 10 = 0 then strip fuel (c / 10) (e + 1) else ⟨c, e⟩

/-- The smallest `k` for which the magnitude of a positive rank is below `10 ^ k`. -/
def leadingPosition (rank : Nat) : Int :=
  let u := Double.units rank
  let estimate : Int := ((u.log2 : Int) - 1074) * 30103 / 100000 - 1
  let below (k : Int) : Bool :=
    if 0 ≤ k then u < Nat.pow 10 k.toNat * Double.unitsOfOne
    else u * Nat.pow 10 (-k).toNat < Double.unitsOfOne
  if below estimate then estimate
  else if below (estimate + 1) then estimate + 1
  else if below (estimate + 2) then estimate + 2
  else estimate + 3

/-- A decimal with the given number of digits that reads back as the rank: of the two grid points
around the magnitude those inside the rounding interval, of two the nearer one. -/
def onGrid? (rank : Nat) (leading : Int) (count : Nat) : Option Scientific :=
  let u := Double.units rank
  let e := leading - count
  let num := if 0 ≤ e then 1 else Nat.pow 10 (-e).toNat
  let den := if 0 ≤ e then Nat.pow 10 e.toNat else 1
  -- all magnitudes below are scaled by `2 * 2 ^ 1074 * num`
  let value := 2 * u * num
  let step := 2 * den * Double.unitsOfOne
  let low := (u + Double.units (rank - 1)) * num
  let high := (u + Double.units (rank + 1)) * num
  let inside (c : Nat) : Bool :=
    if rank % 2 = 0 then low ≤ c * step && c * step ≤ high else low < c * step && c * step < high
  let c := value / step
  match inside c, inside (c + 1) with
  | true, false => some (strip count c e)
  | false, true => some (strip (count + 1) (c + 1) e)
  | true, true =>
    let left := value - c * step
    let right := (c + 1) * step - value
    if left < right || (left == right && c % 2 == 0) then some (strip count c e)
    else some (strip (count + 1) (c + 1) e)
  | false, false => none

def shortestFrom (rank : Nat) (leading : Int) : Nat → Nat → Scientific
  | 0, count => (onGrid? rank leading count).getD ⟨0, 0⟩
  | fuel + 1, count =>
    match onGrid? rank leading count with
    | some d => d
    | none => shortestFrom rank leading fuel (count + 1)

/-- The decimal with the fewest digits that reads back as a positive finite rank. -/
def shortest (rank : Nat) : Scientific := shortestFrom rank (leadingPosition rank) 16 1

def pad (n : Nat) (cs : List Char) : List Char := List.replicate (n - cs.length) '0' ++ cs

/-- Positional from `10 ^ -4` to below `10 ^ 16`, and with an exponent of two digits or more
outside. -/
def layout (d : Scientific) : List Char :=
  let ds := digits d.coefficient
  let point : Int := ds.length + d.exponent
  if -4 < point ∧ point ≤ 16 then
    if point ≤ 0 then '0' :: '.' :: (List.replicate (-point).toNat '0' ++ ds)
    else if 0 ≤ d.exponent then ds ++ List.replicate d.exponent.toNat '0' ++ ['.', '0']
    else ds.take point.toNat ++ '.' :: ds.drop point.toNat
  else
    let e := point - 1
    let mantissa :=
      match ds with
      | [c] => [c]
      | c :: rest => c :: '.' :: rest
      | [] => []
    mantissa ++ 'e' :: (if e < 0 then '-' else '+') :: pad 2 (digits e.natAbs)

/-- The shortest text that reads back as the number. -/
def ofDouble : Double → List Char
  | .nan => "nan".toList
  | .number negative rank =>
    let body :=
      if infinityRank ≤ rank.val then "inf".toList
      else if rank.val = 0 then "0.0".toList
      else layout (shortest rank.val)
    if negative then '-' :: body else body

def ofInt (i : Int) : List Char :=
  if i < 0 then '-' :: digits i.natAbs else digits i.natAbs

end Covenant.Decimal
