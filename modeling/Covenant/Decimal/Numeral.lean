import Covenant.Double
import Covenant.Text

/-! Decimal notation: digits of any script, an optional fraction and an optional exponent. -/

namespace Covenant

/-- A signed decimal, its digits read but not yet rounded. -/
structure Numeral where
  negative : Bool
  whole : List Nat
  fraction : List Nat
  exponent : Int
  deriving DecidableEq

namespace Numeral

def ofDigits (ds : List Nat) : Nat := ds.foldl (fun n d => 10 * n + d) 0

/-- The leading decimal digits of a text and the rest. -/
def spanDigits : List Char → List Nat × List Char
  | [] => ([], [])
  | c :: cs =>
    match decimalDigit? c with
    | some d => let (ds, rest) := spanDigits cs; (d :: ds, rest)
    | none => ([], c :: cs)

/-- The number written by a text of digits alone. -/
def natural? (cs : List Char) : Option Nat :=
  match spanDigits cs with
  | (d :: ds, []) => some (ofDigits (d :: ds))
  | _ => none

def spanSign : List Char → Bool × List Char
  | '-' :: cs => (true, cs)
  | '+' :: cs => (false, cs)
  | cs => (false, cs)

/-- An exponent that fills the text, or no text at all. -/
def readExponent? : List Char → Option Int
  | [] => some 0
  | c :: cs =>
    if c = 'e' ∨ c = 'E' then
      let (negative, rest) := spanSign cs
      match spanDigits rest with
      | (d :: ds, []) =>
        let n : Int := ofDigits (d :: ds)
        some (if negative then -n else n)
      | _ => none
    else none

/-- Digits with an optional point, or a point with digits behind it. -/
def read? (cs : List Char) : Option Numeral := do
  let (negative, rest) := spanSign cs
  match spanDigits rest with
  | ([], '.' :: rest) =>
    let (fraction, rest) := spanDigits rest
    if fraction.isEmpty then none else return ⟨negative, [], fraction, ← readExponent? rest⟩
  | ([], _) => none
  | (whole, '.' :: rest) =>
    let (fraction, rest) := spanDigits rest
    return ⟨negative, whole, fraction, ← readExponent? rest⟩
  | (whole, rest) => return ⟨negative, whole, [], ← readExponent? rest⟩

/-- Groups of three digits, a comma in front of each. -/
def spanGroups : List Char → List Nat × List Char
  | ',' :: a :: b :: c :: rest =>
    match decimalDigit? a, decimalDigit? b, decimalDigit? c with
    | some x, some y, some z => let (ds, rest) := spanGroups rest; (x :: y :: z :: ds, rest)
    | _, _, _ => ([], ',' :: a :: b :: c :: rest)
  | cs => ([], cs)

/-- A number whose whole part is written with thousands separators. -/
def readGrouped? (cs : List Char) : Option Numeral := do
  let (negative, rest) := spanSign cs
  let (first, rest) := spanDigits rest
  let (groups, rest) := spanGroups rest
  if first.isEmpty || 3 < first.length || groups.isEmpty then none
  else
    let whole := first ++ groups
    match rest with
    | '.' :: rest =>
      let (fraction, rest) := spanDigits rest
      return ⟨negative, whole, fraction, ← readExponent? rest⟩
    | rest => return ⟨negative, whole, [], ← readExponent? rest⟩

/-- Beyond this decimal position every number is infinite, and below its negative zero. -/
def positionLimit : Int := 400

/-- The nearest number. -/
def toDouble (n : Numeral) : Double :=
  let ds := (n.whole ++ n.fraction).dropWhile (· == 0)
  let scale := n.exponent - n.fraction.length
  let position := scale + ds.length
  if ds.isEmpty || position < -positionLimit then .ofRank n.negative 0
  else if positionLimit < position then .infinity n.negative
  else if 0 ≤ scale then .nearest n.negative (ofDigits ds * Nat.pow 10 scale.toNat) 1
  else .nearest n.negative (ofDigits ds) (Nat.pow 10 (-scale).toNat)

end Numeral
end Covenant
