import Covenant.Number
import Covenant.Proofs.Double

/-! The exact value of a number, and what is left of it when its fraction is cut off. -/

namespace Covenant

/-- The integer part of a fraction, toward zero. -/
def towardZero (q : ℚ) : ℤ := if 0 ≤ q then ⌊q⌋ else ⌈q⌉

theorem towardZero_intCast (i : ℤ) : towardZero i = i := by
  rw [towardZero, Int.floor_intCast, Int.ceil_intCast, ite_self]

theorem towardZero_neg (q : ℚ) : towardZero (-q) = -towardZero q := by
  rcases lt_trichotomy q 0 with h | rfl | h
  · rw [towardZero, towardZero, if_pos (by linarith), if_neg (by linarith), Int.floor_neg]
  · rfl
  · rw [towardZero, towardZero, if_neg (by linarith), if_pos h.le, Int.ceil_neg]

/-- What is not negative loses its fraction downwards. -/
theorem towardZero_le (h : 0 ≤ q) : (towardZero q : ℚ) ≤ q := by
  rw [towardZero, if_pos h]
  exact Int.floor_le q

/-- What is not positive loses its fraction upwards. -/
theorem le_towardZero (h : q ≤ 0) : q ≤ towardZero q := by
  have hneg := towardZero_le (neg_nonneg.mpr h)
  rw [towardZero_neg, Int.cast_neg] at hneg
  linarith

theorem towardZero_mono (h : p ≤ q) : towardZero p ≤ towardZero q := by
  by_cases hp : 0 ≤ p
  · rw [towardZero, towardZero, if_pos hp, if_pos (hp.trans h)]
    exact Int.floor_mono h
  · rw [towardZero, towardZero, if_neg hp]
    split
    · rename_i hq
      calc ⌈p⌉ ≤ 0 := Int.ceil_le.mpr (by push_cast; linarith)
        _ ≤ ⌊q⌋ := Int.floor_nonneg.mpr hq
    · exact Int.ceil_mono h

theorem towardZero_div (m n : ℕ) : towardZero ((m : ℚ) / n) = (m / n : ℕ) := by
  have h : (0 : ℚ) ≤ (m : ℚ) / n := by positivity
  rw [towardZero, if_pos h, Rat.floor_natCast_div_natCast, Int.natCast_div]

/-- The value of a finite number. -/
def Double.rational? : Double → Option ℚ
  | nan => none
  | number negative rank =>
    if rank.val < infinityRank then
      let q : ℚ := units rank.val / unitsOfOne
      some (if negative then -q else q)
    else none

theorem Double.truncate?_of_rational? {x : Double} (h : x.rational? = some q) :
    x.truncate? = some (towardZero q) := by
  cases x with
  | nan => cases h
  | number negative rank =>
    rw [rational?, Option.ite_none_right_eq_some, Option.some.injEq] at h
    obtain ⟨hr, rfl⟩ := h
    rw [truncate?, if_pos hr]
    cases negative with
    | false => exact congrArg some (towardZero_div _ _).symm
    | true =>
      apply congrArg some
      show -((units rank.val / unitsOfOne : ℕ) : ℤ) = towardZero (-_)
      rw [towardZero_neg, towardZero_div]

/-- The value of a number that is finite. -/
def Value.rational? : Value → Option ℚ
  | .int i => some i
  | .float x => x.rational?
  | _ => none

/-- An integer bound is the number without its fraction. -/
theorem Bound.ofInt_of_rational? (h : value.rational? = some q) (name : String) (convert : Bool) :
    ofInt value name convert = .ok (some (towardZero q)) := by
  cases value with
  | int i =>
    cases h
    rw [towardZero_intCast]
    rfl
  | float x =>
    show (do return some (← x.truncate)) = _
    rw [Double.truncate, Double.truncate?_of_rational? h]
    rfl
  | _ => cases h

end Covenant
