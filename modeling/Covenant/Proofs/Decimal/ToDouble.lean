import Covenant.Proofs.Decimal.Digits
import Covenant.Proofs.Double

/-! Which fractions are read as which binary64 number, and the number that a decimal is read as. -/

namespace Covenant.Double

/-- The fraction lies between the middles to the neighbours of a rank, and on a middle only if the
rank is even. -/
structure RoundsTo (rank num den : Nat) : Prop where
  low : (units (rank - 1) + units rank) * den ≤ 2 * (num * unitsOfOne)
  high : 2 * (num * unitsOfOne) ≤ (units rank + units (rank + 1)) * den
  even_of_low : (units (rank - 1) + units rank) * den = 2 * (num * unitsOfOne) → rank % 2 = 0
  even_of_high : 2 * (num * unitsOfOne) = (units rank + units (rank + 1)) * den → rank % 2 = 0

/-- It does not matter how the fraction is written. -/
theorem RoundsTo.congr (h : RoundsTo rank num den) (hd : 0 < den) (hd' : 0 < den')
    (he : num * den' = num' * den) : RoundsTo rank num' den' := by
  have hl : (units (rank - 1) + units rank) * den' * den =
      (units (rank - 1) + units rank) * den * den' := by ring
  have hm : 2 * (num' * unitsOfOne) * den = 2 * (num * unitsOfOne) * den' := by
    calc 2 * (num' * unitsOfOne) * den = 2 * unitsOfOne * (num' * den) := by ring
      _ = 2 * unitsOfOne * (num * den') := by rw [he]
      _ = 2 * (num * unitsOfOne) * den' := by ring
  have hu : (units rank + units (rank + 1)) * den' * den =
      (units rank + units (rank + 1)) * den * den' := by ring
  constructor
  · refine Nat.le_of_mul_le_mul_right ?_ hd
    rw [hl, hm]
    exact Nat.mul_le_mul_right den' h.low
  · refine Nat.le_of_mul_le_mul_right ?_ hd
    rw [hm, hu]
    exact Nat.mul_le_mul_right den' h.high
  · intro hn
    refine h.even_of_low (Nat.eq_of_mul_eq_mul_right hd' ?_)
    rw [← hl, ← hm, hn]
  · intro hn
    refine h.even_of_high (Nat.eq_of_mul_eq_mul_right hd' ?_)
    rw [← hm, ← hu, hn]

/-- The rank below the fraction is the one that it is read as, or the one before. -/
theorem RoundsTo.floorRank (h : RoundsTo rank num den) (hd : 0 < den) (h0 : 0 < rank)
    (hi : rank < infinityRank) :
    Double.floorRank (num * unitsOfOne / den) = rank ∨
      Double.floorRank (num * unitsOfOne / den) + 1 = rank := by
  have hlow : units (rank - 1) < units rank := units_strictMono (by omega)
  have hhigh : units rank < units (rank + 1) := units_lt_succ rank
  have hfrom : units (rank - 1) ≤ num * unitsOfOne / den := by
    rw [Nat.le_div_iff_mul_le hd]
    have := h.low
    have := Nat.mul_le_mul_right den hlow.le
    rw [Nat.add_mul] at *
    omega
  have hto : num * unitsOfOne / den < units (rank + 1) := by
    rw [Nat.div_lt_iff_lt_mul hd]
    have := h.high
    have := Nat.mul_lt_mul_of_pos_right hhigh hd
    rw [Nat.add_mul] at *
    omega
  have hinf : units (rank + 1) ≤ units infinityRank := units_strictMono.monotone hi
  obtain ⟨_, hle, hlt⟩ := floorRank_of_lt (hto.trans_le hinf)
  have hl : rank - 1 < Double.floorRank (num * unitsOfOne / den) + 1 :=
    units_strictMono.lt_iff_lt.mp (hfrom.trans_lt hlt)
  have hr : Double.floorRank (num * unitsOfOne / den) < rank + 1 :=
    units_strictMono.lt_iff_lt.mp (hle.trans_lt hto)
  omega

theorem RoundsTo.nearest (h : RoundsTo rank num den) (hd : 0 < den) (h0 : 0 < rank)
    (hi : rank < infinityRank) (negative : Bool) :
    nearest negative num den = ofRank negative rank := by
  unfold Double.nearest nearestUnits
  dsimp only
  rcases h.floorRank hd h0 hi with hf | hf
  · rw [hf, if_neg (by omega)]
    split
    · rfl
    · rename_i hn
      have he := h.high.antisymm (Nat.le_of_not_lt hn)
      rw [if_neg (by omega), h.even_of_high he, Nat.add_zero]
  · have hb : Double.floorRank (num * unitsOfOne / den) = rank - 1 := by omega
    rw [hb, Nat.sub_add_cancel h0, if_neg (by omega), if_neg (Nat.not_lt.mpr h.low)]
    split
    · rfl
    · rename_i hn
      have he := h.low.antisymm (Nat.le_of_not_lt hn)
      have heven := h.even_of_low he
      rw [show rank - 1 + (rank - 1) % 2 = rank by omega]

end Covenant.Double

namespace Covenant

open Double (units unitsOfOne RoundsTo)

theorem two_pow_lt_ten_pow (hk : k ≤ 3 * n) (hn : n ≠ 0) : 2 ^ k < 10 ^ n := by
  calc 2 ^ k ≤ 2 ^ (3 * n) := Nat.pow_le_pow_right (by decide) hk
    _ = (2 ^ 3) ^ n := pow_mul 2 3 n
    _ < 10 ^ n := Nat.pow_lt_pow_left (by decide) hn

theorem Double.unitsOfOne_lt : 2 * unitsOfOne < 10 ^ 400 := by
  rw [unitsOfOne_eq, ← pow_succ']
  exact two_pow_lt_ten_pow (by decide) (by decide)

theorem Double.units_infinityRank_lt : units infinityRank < 10 ^ 400 * unitsOfOne := by
  have h : 2 ^ 52 * 2 ^ 2046 = 2 ^ 1024 * unitsOfOne := by
    rw [unitsOfOne_eq, ← pow_add, ← pow_add]
  rw [units_infinityRank, h]
  exact Nat.mul_lt_mul_of_pos_right (two_pow_lt_ten_pow (by decide) (by decide)) unitsOfOne_pos

/-- A fraction that is read as a finite number is neither huge nor tiny. -/
theorem Double.RoundsTo.bounded (h : RoundsTo rank num den) (h0 : 0 < rank)
    (hi : rank < infinityRank) (hd : 0 < den) : num < 10 ^ 400 * den ∧ den < 10 ^ 400 * num := by
  have hu : 0 < units rank := (Nat.zero_le _).trans_lt (Double.units_strictMono h0)
  have htiny := Double.unitsOfOne_lt
  have hhuge := Double.units_infinityRank_lt
  have hlow : den ≤ 2 * unitsOfOne * num := by
    calc den ≤ (units (rank - 1) + units rank) * den := Nat.le_mul_of_pos_left den (by omega)
      _ ≤ 2 * (num * unitsOfOne) := h.low
      _ = 2 * unitsOfOne * num := by ring
  have hhigh : num * unitsOfOne ≤ units infinityRank * den := by
    have hr : units rank ≤ units infinityRank := Double.units_strictMono.monotone hi.le
    have hs : units (rank + 1) ≤ units infinityRank := Double.units_strictMono.monotone hi
    have hsum := h.high
    rw [Nat.add_mul] at hsum
    have := Nat.mul_le_mul_right den hr
    have := Nat.mul_le_mul_right den hs
    omega
  generalize units infinityRank = top at *
  generalize unitsOfOne = one at *
  generalize 10 ^ 400 = bound at *
  constructor
  · refine Nat.lt_of_mul_lt_mul_right (a := one) ?_
    calc num * one ≤ top * den := hhigh
      _ < bound * one * den := Nat.mul_lt_mul_of_pos_right hhuge hd
      _ = bound * den * one := by ring
  · have hn : 0 < num := Nat.pos_of_ne_zero fun hn => by
      rw [hn, Nat.mul_zero] at hlow
      omega
    exact hlow.trans_lt (Nat.mul_lt_mul_of_pos_right htiny hn)

namespace Numeral

/-- The power of ten that the digits of a number count. -/
def scale (n : Numeral) : Int := n.exponent - n.fraction.length

theorem dropWhile_zeros (h : 0 < ofDigits ds) :
    ∃ d rest, ds.dropWhile (· == 0) = d :: rest ∧ d ≠ 0 := by
  induction ds with
  | nil => exact absurd h (Nat.lt_irrefl 0)
  | cons d ds ih =>
    by_cases hd : d = 0
    · subst hd
      rw [ofDigits_cons, Nat.zero_mul, Nat.zero_add] at h
      exact ih h
    · exact ⟨d, ds, List.dropWhile_cons_of_neg (by simpa using hd), hd⟩

/-- A decimal that lies where a rank is the nearest is read as that rank. -/
theorem toDouble_eq {n : Numeral} (hd : ∀ d ∈ n.whole ++ n.fraction, d < 10)
    (hn : 0 < ofDigits (n.whole ++ n.fraction)) (h0 : 0 < rank) (hi : rank < infinityRank)
    (h : RoundsTo rank (ofDigits (n.whole ++ n.fraction) * 10 ^ n.scale.toNat)
      (10 ^ (-n.scale).toNat)) : n.toDouble = .ofRank n.negative rank := by
  obtain ⟨d, ds, hdrop, hne⟩ := dropWhile_zeros hn
  have hvalue := ofDigits_dropWhile (n.whole ++ n.fraction)
  have hlt : ofDigits (d :: ds) < 10 ^ (d :: ds).length := by
    refine ofDigits_lt fun x hx => hd x ?_
    rw [← hdrop] at hx
    exact (List.dropWhile_sublist _).subset hx
  have hle := pow_le_ofDigits hne ds
  obtain ⟨hhuge, htiny⟩ := h.bounded h0 hi (by positivity)
  have hr := h.nearest (by positivity) h0 hi n.negative
  rw [← hvalue, hdrop] at hhuge htiny hr
  have hfrom : ¬n.scale + (ds.length + 1 : Nat) < -positionLimit := by
    intro hp
    unfold positionLimit at hp
    rw [show n.scale.toNat = 0 by omega, pow_zero, Nat.mul_one] at htiny
    have hpow : 10 ^ 400 * 10 ^ (ds.length + 1) ≤ 10 ^ (-n.scale).toNat := by
      rw [← pow_add]
      exact Nat.pow_le_pow_right (by decide) (by omega)
    have := Nat.mul_lt_mul_of_pos_left hlt (show 0 < 10 ^ 400 by positivity)
    exact absurd (htiny.trans this) (Nat.not_lt.mpr hpow)
  have hto : ¬positionLimit < n.scale + (ds.length + 1 : Nat) := by
    intro hp
    unfold positionLimit at hp
    have hpow : 10 ^ 400 * 10 ^ (-n.scale).toNat ≤ 10 ^ ds.length * 10 ^ n.scale.toNat := by
      rw [← pow_add, ← pow_add]
      exact Nat.pow_le_pow_right (by decide) (by omega)
    have := Nat.mul_le_mul_right (10 ^ n.scale.toNat) hle
    exact absurd hhuge (Nat.not_lt.mpr (hpow.trans this))
  unfold toDouble
  simp only [hdrop, List.isEmpty_cons, Bool.false_or, decide_eq_true_eq, List.length_cons]
  rw [← scale, if_neg hfrom, if_neg hto]
  split
  · rw [show (-n.scale).toNat = 0 by omega, pow_zero] at hr
    exact hr
  · rw [show n.scale.toNat = 0 by omega, pow_zero, Nat.mul_one] at hr
    exact hr

end Numeral

end Covenant
