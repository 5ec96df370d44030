import Covenant.Proofs.Check.Default
import Covenant.Proofs.Check.Repeat
import Covenant.Proofs.Double
import Covenant.Proofs.Double.Order
import Covenant.Proofs.Filter.Step
import Covenant.Proofs.Value.Equality

/-! The numbers that the check of a float lets through, and how they stand to its bounds. -/

namespace Covenant

open Double (Ordered Within infinity)

namespace Loose

theorem finite?_eq_some (h : finite? x = some y) : y.isFinite = true := by
  unfold finite? at h
  split at h
  · rename_i hx
    exact Option.some.inj h ▸ hx
  · cases h

theorem readFloat?_isFinite (h : readFloat? cs = some x) : x.isFinite = true := by
  unfold readFloat? at h
  split at h
  · exact finite?_eq_some h
  · obtain ⟨n, _, h⟩ := Option.bind_eq_some_iff.mp h
    exact finite?_eq_some h

theorem ofIntChecked_isFinite (h : Double.ofIntChecked i = .ok x) : x.isFinite = true := by
  cases hi : Double.ofInt? i with
  | none =>
    rw [Double.ofIntChecked_of_none hi] at h
    cases h
  | some y =>
    rw [Double.ofIntChecked_of_some hi] at h
    exact Except.ok.inj h ▸ Double.ofInt?_isFinite hi

end Loose

namespace Check

variable {mode : Mode} {params : Params} {data : Value}

/-- What is read loosely is finite. -/
theorem readFloat_isFinite (h : Loose.readFloat data = .ok (some x)) : x.isFinite = true := by
  unfold Loose.readFloat at h
  split at h
  · rename_i b
    cases h
    refine Double.ofInt_isFinite (Nat.lt_of_le_of_lt ?_ Double.one_lt_leastOverflow)
    cases b <;> decide
  · unfold Covenant.Loose.toFloat? at h
    split at h
    · obtain ⟨y, hy, h⟩ := bind_eq_ok.mp h
      cases h
      exact Loose.ofIntChecked_isFinite hy
    · exact Loose.finite?_eq_some (Except.ok.inj h)
    · exact Loose.readFloat?_isFinite (Except.ok.inj h)
    · cases h

/-- A float that is beyond no bound is let through as it is, any other one is moved to the bound,
which strict mode does not do. -/
theorem float_eq_ok (hl : Bound.ofFloat (params.get "min") "min" (mode.inline || !mode.strict) =
      .ok least)
    (hm : Bound.ofFloat (params.get "max") "max" (mode.inline || !mode.strict) = .ok most)
    (h : float mode params data = .ok r) :
    ∃ x, (if mode.strict then .ok (exactFloat data) else Loose.readFloat data) = .ok (some x) ∧
      ((least.any x.lt || most.any (·.lt x)) = false ∧ r = ⟨.float x, .float x⟩ ∨
        mode.strict = false ∧ ∃ y, y = most.elim (least.elim x x.max) (least.elim x x.max).min ∧
          r = ⟨.float y, .float y⟩) := by
  unfold float at h
  simp only [hl, hm] at h
  obtain ⟨clamp, _, h⟩ := bind_eq_ok.mp (show (liftM (clamps params) >>= _) = _ from h)
  obtain ⟨read, hread, h⟩ := bind_eq_ok.mp h
  cases read with
  | none => cases h
  | some x =>
    refine ⟨x, lift_eq_ok.mp hread, ?_⟩
    dsimp only at h
    split at h
    · obtain ⟨hs, h⟩ := ite_refuse_eq_ok.mp h
      refine .inr ⟨?_, _, rfl, accept_eq_ok.mp h⟩
      exact (Bool.or_eq_false_iff.mp (Bool.eq_false_iff.mpr hs)).1
    · rename_i hb
      exact .inl ⟨Bool.eq_false_iff.mpr hb, accept_eq_ok.mp h⟩

end Check

namespace Kind

variable {mode : Mode} {params : Params} {data : Value} {inner : Check.Delegate}

/-- The float that comes of data is finite and within its bounds, unless it is taken strictly as it
is given: no number, or an infinite one where there is no bound. -/
theorem validate_float_within
    (hl : Bound.ofFloat (params.get "min") "min" (mode.inline || !mode.strict) = .ok least)
    (hm : Bound.ofFloat (params.get "max") "max" (mode.inline || !mode.strict) = .ok most)
    (ho : Ordered least most) (h : float.validate inner mode params data = .ok r) :
    ∃ x, r = ⟨.float x, .float x⟩ ∧ (Within least most x ∨
      mode.strict = true ∧
        (data = .float x ∨ nativeDefault .float mode (params.get "default") = .ok (.float x)) ∧
        (x = .nan ∨ x = infinity false ∧ most = none ∨ x = infinity true ∧ least = none)) := by
  obtain ⟨d, hfrom, hd⟩ : ∃ d, (data = d ∨
      nativeDefault .float mode (params.get "default") = .ok d) ∧
        float.check inner mode params d = .ok r := by
    rcases check_of_validate_eq_ok (by decide) h with hc | ⟨_, d, hd, hc⟩
    · exact ⟨data, .inl rfl, hc⟩
    · exact ⟨d, .inr hd, hc⟩
  obtain ⟨x, hread, hr⟩ := Check.float_eq_ok hl hm hd
  cases hs : mode.strict with
  | false =>
    rw [hs] at hread
    have hx := Check.readFloat_isFinite hread
    rcases hr with ⟨hb, rfl⟩ | ⟨_, y, rfl, rfl⟩
    · exact ⟨x, rfl, .inl (Double.within_of_not_beyond ho hx hb)⟩
    · exact ⟨_, rfl, .inl (Double.within_clamped ho hx)⟩
  | true =>
    rw [hs] at hread hr
    rcases hr with ⟨hb, rfl⟩ | ⟨hstrict, _⟩
    · refine ⟨x, rfl, ?_⟩
      cases hx : x.isFinite with
      | true => exact .inl (Double.within_of_not_beyond ho hx hb)
      | false =>
        have hd : d = .float x := by
          cases d with
          | float y => exact congrArg Value.float (Option.some.inj (Except.ok.inj hread))
          | _ => cases Except.ok.inj hread
        exact .inr ⟨rfl, hd ▸ hfrom, Double.of_not_beyond ho hx hb⟩
    · cases hstrict

def hundred : Double := .ofRank false 0x4059000000000000

def thousand : Double := .ofRank false 0x408F400000000000

def percentage : Params := [("min", .float .zero), ("max", .float hundred)]

theorem validate_high_percentage :
    float.validate Check.noParts ⟨false, false⟩ percentage (.float thousand) =
        .ok ⟨.float hundred, .float hundred⟩ ∧
      Within (some .zero) (some hundred) hundred := by
  have h : float.validate Check.noParts ⟨false, false⟩ percentage (.float thousand) =
      .ok ⟨.float hundred, .float hundred⟩ := by
    rfl
  have ho : Ordered (some .zero) (some hundred) := .of_le (by rfl) (by rfl) (by rfl)
  obtain ⟨x, hr, hx⟩ :=
    @validate_float_within ⟨false, false⟩ percentage _ _ _ _ _ (by rfl) (by rfl) ho h
  rw [← Value.float.inj (congrArg Result.value hr)] at hx
  exact ⟨h, hx.resolve_right fun hs => absurd hs.1 (by decide)⟩

/-- Strictly, what is not a number passes for one within any bounds. -/
theorem validate_not_a_number :
    Filter.initial.validate (.float .nan) (.map ((.text "type", .text "float") ::
        percentage.toEntries)) (some true) = .ok ⟨.float .nan, .float .nan⟩ ∧
      Double.isFinite .nan = false ∧
      Filter.initial.validate (.float .nan) (.map ((.text "type", .text "float") ::
        percentage.toEntries)) (some false) =
          .error (.rejected "Data doesn't respect contract (can't cast to float).") :=
  ⟨by rfl, by rfl, by rfl⟩

end Kind
end Covenant
