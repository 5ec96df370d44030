import Covenant.Proofs.Check.Repeat
import Covenant.Proofs.Double
import Covenant.Proofs.Final

/-! Lengths between their bounds. -/

namespace Covenant

namespace Size

/-- An integer that is small enough for a binary64 number is its own size. -/
theorem ofValue_natCast (h : n < 2 ^ 53) : ofValue (.int (n : ℕ)) = .ok (some n) := by
  have hlt : n < Double.leastOverflow := by
    rw [Double.leastOverflow]
    generalize hk : 970 = k
    exact (h.trans (by norm_num)).trans_le
      (Nat.le_mul_of_pos_right (2 ^ 54 - 1) (Nat.two_pow_pos k))
  cases hx : Double.ofInt? (n : ℕ) with
  | none => exact absurd hlt (Nat.not_lt.mpr (Double.ofInt?_eq_none.mp hx))
  | some x =>
    have hn : ¬((n : ℕ) : Int) < 0 := Int.not_lt.mpr (Int.natCast_nonneg n)
    show (do
      let _ ← Double.ofIntChecked (n : ℕ)
      if ((n : ℕ) : Int) < 0 then bad (.int (n : ℕ)) else return some (Int.toNat (n : ℕ))) = _
    rw [Double.ofIntChecked_of_some hx, if_neg hn, Int.toNat_natCast]
    rfl

theorem ofValue_of_isAbsent (h : value.isAbsent) : ofValue value = .ok none := by
  simp only [ofValue, h, if_true]
  rfl

end Size

namespace Limits

variable {l : Limits} {n k : Nat}

/-- A length between the bounds. -/
structure Allows (l : Limits) (n : Nat) : Prop where
  least : ∀ a ∈ l.least, a ≤ n
  most : ∀ b ∈ l.most, n ≤ b

/-- A length is between the bounds when it is neither too short nor too long. -/
theorem allows_iff : l.Allows n ↔ ¬l.tooShort n ∧ ¬l.tooLong n := by
  rw [Bool.not_eq_true, Bool.not_eq_true, tooShort, tooLong, Option.any_eq_false,
    Option.any_eq_false]
  constructor
  · intro h
    exact ⟨fun a ha => by simpa using h.least a ha, fun b hb => by simpa using h.most b hb⟩
  · rintro ⟨hs, hl⟩
    exact ⟨fun a ha => by simpa using hs a ha, fun b hb => by simpa using hl b hb⟩

theorem allows_cut {xs : List α} (h : ¬l.tooShort (l.cut xs).length) :
    l.Allows (l.cut xs).length :=
  allows_iff.mpr ⟨h, Bool.eq_false_iff.mp (l.tooLong_cut xs)⟩

theorem cut_sublist (l : Limits) (xs : List α) : (l.cut xs).Sublist xs := by
  rw [Limits.cut]
  split
  · exact List.take_sublist _ xs
  · exact .refl xs

theorem mem_of_mem_cut {xs : List α} (h : x ∈ l.cut xs) : x ∈ xs := (l.cut_sublist xs).subset h

/-- A length that is made smaller is still long enough when both numbers are. -/
theorem allows_min (h : l.Allows n) : l.Allows (min n k) ↔ ∀ a ∈ l.least, a ≤ k := by
  constructor
  · intro hm a ha
    exact (hm.least a ha).trans (Nat.min_le_right n k)
  · intro hk
    exact ⟨fun a ha => Nat.le_min.mpr ⟨h.least a ha, hk a ha⟩,
      fun b hb => (Nat.min_le_left n k).trans (h.most b hb)⟩

theorem ofParams_eq {params : Params} {a b : Option Nat}
    (hl : Size.ofValue (params.get "minLen") = .ok a)
    (hm : Size.ofValue (params.get "maxLen") = .ok b) : ofParams params = .ok ⟨a, b⟩ := by
  rw [ofParams, hl, hm]
  rfl

theorem ofParams_of_absent {params : Params} (hmin : (params.get "minLen").isAbsent)
    (hmax : (params.get "maxLen").isAbsent) : ofParams params = .ok ⟨none, none⟩ :=
  ofParams_eq (Size.ofValue_of_isAbsent hmin) (Size.ofValue_of_isAbsent hmax)

end Limits
end Covenant
