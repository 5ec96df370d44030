import Covenant.Proofs.Check.Default
import Covenant.Proofs.Check.Repeat
import Covenant.Proofs.Double.Exact
import Covenant.Proofs.Filter.Step

/-! Integers between bounds that need not be integers: a bound counts without its fraction. -/

namespace Covenant

open Double (units unitsOfOne)

theorem Check.beyond_eq_false {a b i : ℤ} :
    ((some a).any (i < ·) || (some b).any (· < i)) = false ↔ a ≤ i ∧ i ≤ b := by
  rw [not_beyond_iff]
  simp

namespace Kind

variable {mode : Mode} {params : Params} {data : Value} {inner : Check.Delegate} {a b : ℚ}

/-- The integers that come of data are those between the bounds without their fractions. So they
keep to a bound that is an integer, and to one that loses its fraction inwards: a lower bound that
is not positive, an upper bound that is not negative. -/
theorem validate_int_between (hl : (params.get "min").rational? = some a)
    (hm : (params.get "max").rational? = some b) (hab : a ≤ b)
    (h : int.validate inner mode params data = .ok r) :
    (∃ i : ℤ, r = ⟨.int i, .int i⟩ ∧ towardZero a ≤ i ∧ i ≤ towardZero b ∧
      (a ≤ 0 ∨ (∃ k : ℤ, a = k) → a ≤ i) ∧ (0 ≤ b ∨ (∃ k : ℤ, b = k) → (i : ℚ) ≤ b)) ∧
    ∀ i : ℤ, towardZero a ≤ i → i ≤ towardZero b →
      int.validate inner mode params (.int i) = .ok ⟨.int i, .int i⟩ := by
  have hleast := Bound.ofInt_of_rational? hl "min" (mode.inline || !mode.strict)
  have hmost := Bound.ofInt_of_rational? hm "max" (mode.inline || !mode.strict)
  have hle : ∀ x ∈ some (towardZero a), ∀ y ∈ some (towardZero b), x ≤ y := by
    rintro _ ⟨⟩ _ ⟨⟩
    exact towardZero_mono hab
  obtain ⟨d, hd⟩ := validate_eq_ok (by decide) h
  obtain ⟨⟨clamp, hc⟩, i, hr, hin⟩ := Check.int_eq_ok hleast hmost hle hd
  obtain ⟨hai, hib⟩ := Check.beyond_eq_false.mp hin
  have hai' : (towardZero a : ℚ) ≤ i := Int.cast_le.mpr hai
  have hib' : (i : ℚ) ≤ towardZero b := Int.cast_le.mpr hib
  refine ⟨⟨i, hr, hai, hib, ?_, ?_⟩, ?_⟩
  · rintro (ha | ⟨k, rfl⟩)
    · exact (le_towardZero ha).trans hai'
    · rwa [towardZero_intCast] at hai'
  · rintro (hb | ⟨k, rfl⟩)
    · exact hib'.trans (towardZero_le hb)
    · rwa [towardZero_intCast] at hib'
  · intro j haj hjb
    apply validate_of_accepted
    exact Check.int_within hleast hmost hc (Check.beyond_eq_false.mpr ⟨haj, hjb⟩)

def half : Double := .ofRank false 0x3FE0000000000000

def minusHalf : Double := .ofRank true 0x3FE0000000000000

theorem units_half : (units 0x3FE0000000000000 : ℚ) / unitsOfOne = 1 / 2 := by
  have hr : 0x3FE0000000000000 = 1021 * 2 ^ 52 + 2 ^ 52 := by norm_num
  have hu : units (1021 * 2 ^ 52 + 2 ^ 52) * 2 = unitsOfOne := by
    rw [Double.units_add (le_refl _) (by norm_num), Double.unitsOfOne_eq, ← pow_add, ← pow_succ]
  have hpos : (unitsOfOne : ℚ) ≠ 0 := Nat.cast_ne_zero.mpr Double.unitsOfOne_pos.ne'
  rw [div_eq_div_iff hpos two_ne_zero, one_mul, hr, ← hu, Nat.cast_mul, Nat.cast_ofNat]

theorem rational?_half : half.rational? = some (1 / 2) := congrArg some units_half

theorem rational?_minusHalf : minusHalf.rational? = some (-(1 / 2)) :=
  congrArg (fun q => some (-q)) units_half

theorem towardZero_half : towardZero (1 / 2) = 0 := by
  rw [towardZero, if_pos (by norm_num), Int.floor_eq_iff]
  norm_num

/-- From a half below zero to ten. -/
def fromMinusHalf : Params := [("min", .float minusHalf), ("max", .int 10)]

theorem validate_far_below :
    int.validate Check.noParts ⟨false, false⟩ fromMinusHalf (.int (-7)) = .ok ⟨.int 0, .int 0⟩ ∧
      (-(1 / 2) : ℚ) ≤ (0 : ℤ) ∧ ((0 : ℤ) : ℚ) ≤ (10 : ℤ) := by
  have hl : (fromMinusHalf.get "min").rational? = some (-(1 / 2)) := rational?_minusHalf
  have hm : (fromMinusHalf.get "max").rational? = some ((10 : ℤ) : ℚ) := rfl
  have h : int.validate Check.noParts ⟨false, false⟩ fromMinusHalf (.int (-7)) =
      .ok ⟨.int 0, .int 0⟩ := by
    apply validate_of_accepted
    show Check.int _ _ _ = _
    rw [Check.int]
    simp only [Bound.ofInt_of_rational? hl, Bound.ofInt_of_rational? hm, towardZero_neg,
      towardZero_half, towardZero_intCast]
    rfl
  obtain ⟨⟨i, hr, _, _, hlow, hhigh⟩, _⟩ := validate_int_between hl hm (by norm_num) h
  obtain rfl : (0 : ℤ) = i := Value.int.inj (congrArg Result.value hr)
  exact ⟨h, hlow (.inl (by norm_num)), hhigh (.inr ⟨10, rfl⟩)⟩

/-- From a half to ten. -/
def fromHalf : Params := [("type", .text "int"), ("min", .float half), ("max", .int 10)]

/-- Zero passes for an integer that is at least a half. -/
theorem validate_below_half :
    Filter.initial.validate (.int 0) (.map fromHalf.toEntries) (some true) =
        .ok ⟨.int 0, .int 0⟩ ∧
      (Value.float half).rational? = some (1 / 2) ∧ ¬(1 / 2 : ℚ) ≤ (0 : ℤ) := by
  refine ⟨?_, rational?_half, by norm_num⟩
  have hl : (fromHalf.get "min").rational? = some (1 / 2) := rational?_half
  have hm : (fromHalf.get "max").rational? = some ((10 : ℤ) : ℚ) := rfl
  have hc : Node.ofContract false (.map fromHalf.toEntries) =
      .ok (some ⟨⟨["int"], none, false⟩, fromHalf, false⟩) := rfl
  rw [Filter.validate_kind hc rfl rfl rfl (by simp)]
  apply validate_of_accepted
  apply Check.int_within (Bound.ofInt_of_rational? hl _ _) (Bound.ofInt_of_rational? hm _ _) rfl
  rw [Check.beyond_eq_false, towardZero_half, towardZero_intCast]
  decide

end Kind
end Covenant
