import Covenant.Double
import Covenant.Proofs.Held

/-! The order of binary64 numbers. What is not a number has no place in it, so that no comparison
holds of it. -/

namespace Covenant.Double

variable {x y : Double} {least most : Option Double}

theorem lt_iff : x.lt y = true ↔ ∃ a b, x.key = some a ∧ y.key = some b ∧ a < b := by
  unfold lt
  split
  · rename_i a b ha hb
    simp [ha, hb]
  · rename_i h
    simp only [Bool.false_eq_true, false_iff]
    rintro ⟨a, b, ha, hb, _⟩
    exact h a b ha hb

theorem le_iff : x.le y = true ↔ ∃ a b, x.key = some a ∧ y.key = some b ∧ a ≤ b := by
  unfold le
  split
  · rename_i a b ha hb
    simp [ha, hb]
  · rename_i h
    simp only [Bool.false_eq_true, false_iff]
    rintro ⟨a, b, ha, hb, _⟩
    exact h a b ha hb

theorem isFinite_iff :
    x.isFinite = true ↔ ∃ a, x.key = some a ∧ -(infinityRank : Int) < a ∧ a < infinityRank := by
  cases x with
  | nan => simp [isFinite, key]
  | number negative rank =>
    cases negative <;> simp only [isFinite, key, decide_eq_true_eq, Option.some.injEq,
      exists_eq_left', Bool.false_eq_true, if_false, if_true] <;> omega

theorem exists_key (h : x.isFinite) : ∃ a, x.key = some a := by
  obtain ⟨a, ha, _⟩ := isFinite_iff.mp h
  exact ⟨a, ha⟩

/-- Finite numbers are compared by their keys. -/
theorem compares : Compares (fun x : Double => x.isFinite = true) (fun x => x.key.getD 0) lt
    (fun x y => x.le y = true) := by
  constructor
  · intro x y hx hy
    obtain ⟨a, ha⟩ := exists_key hx
    obtain ⟨b, hb⟩ := exists_key hy
    rw [lt_iff, ha, hb]
    simp
  · intro x y hx hy
    obtain ⟨a, ha⟩ := exists_key hx
    obtain ⟨b, hb⟩ := exists_key hy
    rw [le_iff, ha, hb]
    simp

/-- Of two finite numbers, one is at most the other. -/
theorem le_of_not_lt (hx : x.isFinite = true) (hy : y.isFinite = true) (h : x.lt y = false) :
    y.le x = true :=
  compares.le_of_not_lt hy hx h

/-- A finite number from one bound to the other, as far as they are given. -/
structure Within (least most : Option Double) (x : Double) : Prop where
  finite : x.isFinite = true
  atLeast : ∀ a ∈ least, a.le x = true
  atMost : ∀ b ∈ most, x.le b = true

/-- Bounds that are finite and in order. -/
structure Ordered (least most : Option Double) : Prop where
  leastFinite : ∀ a ∈ least, a.isFinite = true
  mostFinite : ∀ b ∈ most, b.isFinite = true
  le : ∀ a ∈ least, ∀ b ∈ most, a.le b = true

theorem Ordered.of_le (hx : x.isFinite = true) (hy : y.isFinite = true) (h : x.le y = true) :
    Ordered (some x) (some y) := by
  refine ⟨?_, ?_, ?_⟩
  · rintro _ ⟨⟩
    exact hx
  · rintro _ ⟨⟩
    exact hy
  · rintro _ ⟨⟩ _ ⟨⟩
    exact h

theorem not_beyond (h : (least.any x.lt || most.any (·.lt x)) = false) :
    (∀ a ∈ least, x.lt a = false) ∧ ∀ b ∈ most, b.lt x = false := by
  cases least <;> cases most <;> simp_all

theorem within_of_not_beyond (h : Ordered least most) (hx : x.isFinite = true)
    (hb : (least.any x.lt || most.any (·.lt x)) = false) : Within least most x :=
  ⟨hx, fun a ha => le_of_not_lt hx (h.leastFinite a ha) ((not_beyond hb).1 a ha),
    fun b hb' => le_of_not_lt (h.mostFinite b hb') hx ((not_beyond hb).2 b hb')⟩

/-- A finite number that is moved to the nearest bound is within the bounds. -/
theorem within_clamped (h : Ordered least most) (hx : x.isFinite = true) :
    Within least most (most.elim (least.elim x x.max) (least.elim x x.max).min) := by
  have hfinite : (hold lt least most x).isFinite = true :=
    hold_of_forall (P := fun x => x.isFinite = true) lt hx h.leastFinite h.mostFinite
  have hheld := compares.held_hold hx h.leastFinite h.mostFinite h.le
  exact ⟨hfinite, hheld.above, hheld.below⟩

theorem rank_of_not_finite {rank : Fin (infinityRank + 1)}
    (h : isFinite (.number negative rank) = false) : rank.val = infinityRank := by
  have hlt := rank.isLt
  rw [isFinite, decide_eq_false_iff_not] at h
  omega

theorem eq_infinity {rank : Fin (infinityRank + 1)} (h : rank.val = infinityRank) :
    number negative rank = infinity negative := by
  rw [infinity, ofRank]
  exact congrArg (number negative) (Fin.ext (by simp [h]))

/-- A finite number is less than infinity and more than what is opposite to it. -/
theorem lt_infinity (hx : x.isFinite = true) :
    x.lt (infinity false) = true ∧ (infinity true).lt x = true := by
  obtain ⟨a, ha, hlow, hhigh⟩ := isFinite_iff.mp hx
  have hi : (infinity false).key = some (infinityRank : Int) ∧
      (infinity true).key = some (-(infinityRank : Int)) := by
    simp [infinity, ofRank, key]
  exact ⟨lt_iff.mpr ⟨a, _, ha, hi.1, hhigh⟩, lt_iff.mpr ⟨_, a, hi.2, ha, hlow⟩⟩

/-- What is beyond no bound and yet not finite is no number, or infinite where there is no bound. -/
theorem of_not_beyond (h : Ordered least most) (hx : x.isFinite = false)
    (hb : (least.any x.lt || most.any (·.lt x)) = false) :
    x = nan ∨ x = infinity false ∧ most = none ∨ x = infinity true ∧ least = none := by
  obtain ⟨hl, hm⟩ := not_beyond hb
  cases x with
  | nan => exact .inl rfl
  | number negative rank =>
    rw [eq_infinity (rank_of_not_finite hx)] at hl hm ⊢
    cases negative with
    | false =>
      refine .inr (.inl ⟨rfl, Option.eq_none_iff_forall_not_mem.mpr fun b hb => ?_⟩)
      exact absurd (lt_infinity (h.mostFinite b hb)).1 (Bool.eq_false_iff.mp (hm b hb))
    | true =>
      refine .inr (.inr ⟨rfl, Option.eq_none_iff_forall_not_mem.mpr fun a ha => ?_⟩)
      exact absurd (lt_infinity (h.leastFinite a ha)).2 (Bool.eq_false_iff.mp (hl a ha))

end Covenant.Double
