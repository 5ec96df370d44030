import Covenant.Number
import Covenant.Proofs.Decimal.Natural
import Covenant.Proofs.Decimal.Script

/-! Integers as binary64 numbers: what is left of them, which are left as they are, and that their
decimal digits are read as the numbers nearest to them. -/

namespace Covenant.Double

/-- What an integer becomes as a binary64 number, unless it is too large for one. -/
def rounded? (i : Int) : Option Int := (ofInt i).truncate?

/-- At most 53 binary digits with zeros behind them, no more than 1024 in all. -/
def IsExact (n : Nat) : Prop := n < 2 ^ 1024 ∧ ∃ m < 2 ^ 53, ∃ e, n = m * 2 ^ e

variable {rank n : Nat}

theorem ofRank_of_le (h : infinityRank ≤ rank) (negative : Bool) :
    ofRank negative rank = infinity negative := by
  simp only [ofRank, infinity, Nat.min_eq_right h, Nat.min_self]

section Rounding

/-- Whole numbers are rounded to their rank even where it is beyond infinity. -/
theorem RoundsTo.nearest_of_pos (h : RoundsTo rank n 1) (h0 : 0 < rank) (negative : Bool) :
    Double.nearest negative n 1 = ofRank negative rank := by
  rcases Nat.lt_or_ge rank infinityRank with hi | hi
  · exact h.nearest (by decide) h0 hi negative
  · obtain ⟨r, hr, _⟩ := nearestUnits_eq negative (n * unitsOfOne) 1
    have hinf : ¬(nearestUnits negative (n * unitsOfOne) 1).isFinite := by
      have hprev : units (infinityRank - 1) ≤ units (rank - 1) :=
        units_strictMono.monotone (by omega)
      have hlast : units infinityRank ≤ units rank := units_strictMono.monotone hi
      have hlow := h.low
      rw [nearestUnits_isFinite]
      omega
    rw [hr, ofRank_isFinite, Nat.not_lt] at hinf
    rw [Double.nearest, hr, ofRank_of_le hinf, ofRank_of_le hi]

/-- Every whole number is rounded to one of the two ranks around it. -/
theorem exists_roundsTo (n : Nat) : ∃ rank, RoundsTo rank n 1 := by
  obtain ⟨below, _, hle, hlt⟩ := floorRank_eq_min (n * unitsOfOne)
  -- the candidates are `below` and the rank after it; on the middle the even one is taken
  have hprev : below = 0 ∨ units (below - 1) < units below :=
    below.eq_zero_or_pos.imp_right fun h => units_strictMono (by omega)
  have hprev' : units (below - 1) ≤ units below := units_strictMono.monotone (Nat.sub_le below 1)
  have hnext := units_lt_succ (below + 1)
  have hdown (h : 2 * (n * unitsOfOne) ≤ units below + units (below + 1))
      (he : 2 * (n * unitsOfOne) = units below + units (below + 1) → below % 2 = 0) :
      RoundsTo below n 1 := by
    constructor <;> omega
  have hup (h : units below + units (below + 1) ≤ 2 * (n * unitsOfOne))
      (he : units below + units (below + 1) = 2 * (n * unitsOfOne) → (below + 1) % 2 = 0) :
      RoundsTo (below + 1) n 1 := by
    have hself : units (below + 1 - 1) = units below := by rw [Nat.add_sub_cancel]
    constructor <;> omega
  rcases Nat.lt_trichotomy (2 * (n * unitsOfOne)) (units below + units (below + 1)) with h | h | h
  · exact ⟨below, hdown h.le fun he => absurd he h.ne⟩
  · rcases Nat.mod_two_eq_zero_or_one below with hb | hb
    · exact ⟨below, hdown h.le fun _ => hb⟩
    · exact ⟨below + 1, hup h.ge fun _ => by omega⟩
  · exact ⟨below + 1, hup h.le fun he => absurd he h.ne⟩

/-- The rank of a whole number is that of a normal number. -/
theorem RoundsTo.lt_rank (h : RoundsTo rank n 1) (hn : 0 < n) : 2 ^ 52 < rank := by
  by_contra hr
  have hu : units rank = rank := units_of_le (by omega)
  have hs : units (rank + 1) = rank + 1 := units_of_le (by omega)
  have hone : 2 ^ 54 ≤ unitsOfOne := by
    rw [unitsOfOne_eq]
    generalize hk : 1074 = k
    exact Nat.pow_le_pow_right (by decide) (by omega)
  have hmul := Nat.le_mul_of_pos_left unitsOfOne hn
  have hhigh := h.high
  rw [hu, hs] at hhigh
  omega

theorem nearest_of_huge (h : 10 ^ 400 ≤ n) (negative : Bool) :
    Double.nearest negative n 1 = infinity negative := by
  have hn : 0 < n := (Nat.pow_pos (by decide)).trans_le h
  obtain ⟨rank, hr⟩ := exists_roundsTo n
  have h0 := hr.lt_rank hn
  rw [hr.nearest_of_pos (by omega)]
  refine ofRank_of_le (Nat.le_of_not_lt fun hi => ?_) negative
  have hlt := (hr.bounded (by omega) hi (by decide)).1
  rw [Nat.mul_one] at hlt
  exact absurd h (Nat.not_le.mpr hlt)

theorem units_shift (h : 2 ^ 52 ≤ rank) (e : Nat) :
    units (rank + e * 2 ^ 52) = units rank * 2 ^ e := by
  obtain ⟨s, m, rfl, hl, hm⟩ := exists_mantissa h
  have hr : s * 2 ^ 52 + m + e * 2 ^ 52 = (s + e) * 2 ^ 52 + m := by ring
  rw [hr, units_add hl hm, units_add hl hm, pow_add, Nat.mul_assoc]

/-- A power of two as a factor moves the rank, and the numbers around it with it. -/
theorem RoundsTo.shift (h : RoundsTo rank n 1) (hr : 2 ^ 52 < rank) (e : Nat) :
    RoundsTo (rank + e * 2 ^ 52) (n * 2 ^ e) 1 := by
  have hprev : units (rank + e * 2 ^ 52 - 1) = units (rank - 1) * 2 ^ e := by
    rw [← units_shift (by omega), show rank + e * 2 ^ 52 - 1 = rank - 1 + e * 2 ^ 52 by omega]
  have hnext : units (rank + e * 2 ^ 52 + 1) = units (rank + 1) * 2 ^ e := by
    rw [← units_shift (by omega), show rank + e * 2 ^ 52 + 1 = rank + 1 + e * 2 ^ 52 by omega]
  have hparity : (rank + e * 2 ^ 52) % 2 = rank % 2 := by omega
  have hvalue : 2 * (n * 2 ^ e * unitsOfOne) = 2 * (n * unitsOfOne) * 2 ^ e := by ring
  have hpos := Nat.two_pow_pos e
  have hself := units_shift hr.le e
  obtain ⟨hlow, hhigh, heven, heven'⟩ := h
  rw [Nat.mul_one] at hlow hhigh heven heven'
  constructor <;>
    simp only [hprev, hself, hnext, hvalue, hparity, Nat.mul_one, ← Nat.add_mul]
  · exact Nat.mul_le_mul_right _ hlow
  · exact Nat.mul_le_mul_right _ hhigh
  · exact fun he => heven (Nat.eq_of_mul_eq_mul_right hpos he)
  · exact fun he => heven' (Nat.eq_of_mul_eq_mul_right hpos he)

/-- A magnitude is rounded to itself. -/
theorem nearestUnits_units (negative : Bool) (rank : Nat) :
    nearestUnits negative (units rank) 1 = ofRank negative rank := by
  obtain ⟨below, hf, hle, hlt⟩ := floorRank_eq_min (units rank)
  obtain rfl : below = rank := by
    have hl := units_strictMono.le_iff_le.mp hle
    have hr := units_strictMono.lt_iff_lt.mp hlt
    omega
  have hnext := units_lt_succ below
  unfold nearestUnits
  simp only [Nat.div_one, Nat.mul_one, hf]
  split
  · exact (ofRank_of_le (by omega) negative).symm
  · rw [Nat.min_eq_left (by omega), if_pos (by omega)]

theorem scale_ofRank (h : rank < infinityRank) (negative : Bool) (e : Nat) :
    (ofRank negative rank).scale e = nearestUnits negative (units rank * 2 ^ e) 1 := by
  simp only [ofRank, scale, Nat.min_eq_left h.le, if_pos h, Nat.pow_eq]

theorem scale_infinity (negative : Bool) (e : Nat) :
    (infinity negative).scale e = infinity negative := by
  simp only [infinity, ofRank, scale, Nat.min_self, Nat.lt_irrefl, if_false]

/-- It does not matter whether a power of two is a factor of the number or of what it is rounded
to. -/
theorem scale_nearest (negative : Bool) (n e : Nat) :
    (nearest negative n 1).scale e = nearest negative (n * 2 ^ e) 1 := by
  rcases n.eq_zero_or_pos with rfl | hn
  · have hu : units 0 * 2 ^ e = units 0 := Nat.zero_mul _
    rw [Nat.zero_mul, nearest_zero negative (by decide), scale_ofRank (by decide), hu,
      nearestUnits_units]
  · obtain ⟨rank, h⟩ := exists_roundsTo n
    have hr := h.lt_rank hn
    rw [h.nearest_of_pos (by omega), (h.shift hr e).nearest_of_pos (by omega)]
    -- a number that is too large stays so, and otherwise the scaled rank is met exactly
    rcases Nat.lt_or_ge rank infinityRank with hi | hi
    · rw [scale_ofRank hi, ← units_shift hr.le, nearestUnits_units]
    · rw [ofRank_of_le hi, ofRank_of_le (by omega), scale_infinity]

end Rounding

section Exact

theorem units_infinityRank_eq : units infinityRank = 2 ^ 1024 * unitsOfOne := by
  rw [units_infinityRank, unitsOfOne_eq, ← pow_add, ← pow_add]

theorem isExact_mul (hm : m < 2 ^ 53) (he : e ≤ 971) : IsExact (m * 2 ^ e) := by
  refine ⟨?_, m, hm, e, rfl⟩
  have hpow (k : Nat) (hk : 53 + e ≤ k) : 2 ^ (53 + e) ≤ 2 ^ k :=
    Nat.pow_le_pow_right (by decide) hk
  calc m * 2 ^ e < 2 ^ 53 * 2 ^ e := Nat.mul_lt_mul_of_pos_right hm (Nat.two_pow_pos e)
    _ = 2 ^ (53 + e) := (pow_add 2 53 e).symm
    _ ≤ 2 ^ 1024 := hpow 1024 (by omega)

/-- An exact number is the magnitude of a rank. -/
theorem IsExact.exists_rank (h : IsExact n) :
    ∃ rank < infinityRank, units rank = n * unitsOfOne := by
  obtain ⟨hlt, m, hm, e, rfl⟩ := h
  rcases m.eq_zero_or_pos with rfl | h0
  · exact ⟨0, by decide, by rw [Nat.zero_mul, Nat.zero_mul]; rfl⟩
  · obtain ⟨rank, hu⟩ := Double.exists_rank h0 hm.le
    have hrank : 2 ^ 52 ≤ rank := ((RoundsTo.of_units hu (Nat.pos_of_ne_zero ?_)).lt_rank h0).le
    · have hs : units (rank + e * 2 ^ 52) = m * 2 ^ e * unitsOfOne := by
        rw [units_shift hrank, hu]
        ring
      refine ⟨rank + e * 2 ^ 52, units_strictMono.lt_iff_lt.mp ?_, hs⟩
      rw [hs, units_infinityRank_eq]
      exact Nat.mul_lt_mul_of_pos_right hlt unitsOfOne_pos
    · rintro rfl
      exact absurd hu (Nat.mul_pos h0 unitsOfOne_pos).ne

/-- The whole part of a magnitude is an exact number. -/
theorem isExact_units_div (h : rank < infinityRank) : IsExact (units rank / unitsOfOne) := by
  have hlt : units rank / unitsOfOne < 2 ^ 1024 := by
    rw [Nat.div_lt_iff_lt_mul unitsOfOne_pos, ← units_infinityRank_eq]
    exact units_strictMono h
  refine ⟨hlt, ?_⟩
  rcases Nat.lt_or_ge (units rank / unitsOfOne) (2 ^ 53) with hs | hs
  · exact ⟨_, hs, 0, (Nat.mul_one _).symm⟩
  · replace hs := (Nat.le_div_iff_mul_le unitsOfOne_pos).mp hs
    have hr : 2 ^ 52 ≤ rank := by
      by_contra hr
      rw [units_of_lt (by omega)] at hs
      have := Nat.le_mul_of_pos_right (2 ^ 53) unitsOfOne_pos
      omega
    obtain ⟨s, m, rfl, hl, hm⟩ := exists_mantissa hr
    rw [units_add hl hm, unitsOfOne_eq] at hs ⊢
    generalize 1074 = k at hs ⊢
    -- the exponent is large enough to leave no fraction
    have hk : k ≤ s := by
      by_contra hk
      have hpow : 2 ^ s ≤ 2 ^ k := Nat.pow_le_pow_right (by decide) (by omega)
      have := Nat.mul_lt_mul_of_lt_of_le hm hpow (Nat.two_pow_pos k)
      omega
    refine ⟨m, hm, s - k, ?_⟩
    conv_lhs => rw [← Nat.sub_add_cancel hk, pow_add, ← Nat.mul_assoc]
    exact Nat.mul_div_cancel _ (Nat.two_pow_pos k)

theorem exists_ofInt (i : Int) : ∃ rank, ofInt i = ofRank (decide (i < 0)) rank := by
  obtain ⟨rank, h, _⟩ := nearestUnits_eq (decide (i < 0)) (i.natAbs * unitsOfOne) 1
  exact ⟨rank, h⟩

theorem ofInt_natCast (n : Nat) : ofInt n = nearest false n 1 := by
  rw [ofInt, decide_eq_false (Int.not_lt.mpr (Int.natCast_nonneg n)), Int.natAbs_natCast]

theorem truncate?_ofRank (h : rank < infinityRank) (negative : Bool) :
    (ofRank negative rank).truncate? = some (if negative then
      -((units rank / unitsOfOne : Nat) : Int) else (units rank / unitsOfOne : Nat)) := by
  simp only [ofRank, truncate?, Nat.min_eq_left h.le, if_pos h, Int.natCast_div]

theorem truncate?_eq_none {x : Double} : x.truncate? = none ↔ x.isFinite = false := by
  cases x with
  | nan => exact iff_of_true rfl rfl
  | number negative rank =>
    rw [truncate?, isFinite, decide_eq_false_iff_not]
    split
    · rename_i h
      exact iff_of_false (Option.some_ne_none _) (not_not_intro h)
    · rename_i h
      exact iff_of_true rfl h

/-- Nothing is left of an integer exactly when there is no finite number for it. -/
theorem ofInt?_eq (i : Int) : ofInt? i = (rounded? i).map fun _ => ofInt i := by
  rw [ofInt?, rounded?]
  cases h : (ofInt i).truncate? with
  | none => exact if_neg (by rw [truncate?_eq_none.mp h]; decide)
  | some r =>
    refine if_pos (Bool.not_eq_false _ ▸ fun hf => ?_)
    rw [truncate?_eq_none.mpr hf] at h
    cases h

theorem rounded?_eq_none {i : Int} : rounded? i = none ↔ leastOverflow ≤ i.natAbs := by
  rw [← ofInt?_eq_none, ofInt?_eq, Option.map_eq_none_iff]

/-- An integer is left as it is exactly when its magnitude is an exact number. -/
theorem rounded?_eq_self {i : Int} : rounded? i = some i ↔ IsExact i.natAbs := by
  constructor
  · intro h
    obtain ⟨rank, hr⟩ := exists_ofInt i
    rcases Nat.lt_or_ge rank infinityRank with hi | hi
    · rw [rounded?, hr, truncate?_ofRank hi, Option.some.injEq] at h
      have habs : units rank / unitsOfOne = i.natAbs := by
        generalize units rank / unitsOfOne = q at h
        split at h <;> omega
      exact habs ▸ isExact_units_div hi
    · rw [rounded?, hr, ofRank_of_le hi, truncate?_eq_none.mpr infinity_isFinite] at h
      cases h
  · intro h
    obtain ⟨rank, hi, hu⟩ := h.exists_rank
    have hr : ofInt i = ofRank (decide (i < 0)) rank := by
      rw [ofInt, nearest, ← hu, nearestUnits_units]
    rw [rounded?, hr, truncate?_ofRank hi, hu, Nat.mul_div_cancel _ unitsOfOne_pos]
    congr 1
    split
    · rename_i hs
      rw [decide_eq_true_eq] at hs
      omega
    · rename_i hs
      rw [decide_eq_true_eq] at hs
      omega

end Exact
end Covenant.Double

namespace Covenant

open Decimal (digitChar figures)
open Double (infinity rounded?)

namespace Numeral

/-- Digits alone are read as the number nearest to theirs, however many they are. -/
theorem toDouble_digits (negative : Bool) (ds : List Nat) :
    (⟨negative, ds, [], 0⟩ : Numeral).toDouble = .nearest negative (ofDigits ds) 1 := by
  have hvalue := ofDigits_dropWhile ds
  unfold toDouble
  simp only [List.append_nil, List.length_nil, Nat.cast_zero, Int.sub_self, Int.zero_add]
  cases hdrop : ds.dropWhile (· == 0) with
  | nil =>
    have hzero : ofDigits ds = 0 := by rw [← hvalue, hdrop]; rfl
    rw [hzero, Double.nearest_zero negative (by decide)]
    rfl
  | cons d rest =>
    have hd : d ≠ 0 := by
      have := List.head_dropWhile_not (p := (· == 0)) (l := ds) (by simp [hdrop])
      simpa [hdrop] using this
    have hle := pow_le_ofDigits hd rest
    rw [hdrop] at hvalue
    rw [hvalue] at hle ⊢
    have hfrom : ¬((d :: rest).length : Int) < -positionLimit := by
      unfold positionLimit
      omega
    simp only [List.isEmpty_cons, Bool.false_or, decide_eq_true_eq, if_neg hfrom]
    -- beyond the limit infinity is given at once, and the whole number is rounded to it as well
    split
    · rename_i hp
      have hlong : 400 ≤ rest.length := by
        rw [positionLimit, List.length_cons] at hp
        omega
      have hpow (k : Nat) (hk : k ≤ rest.length) : 10 ^ k ≤ 10 ^ rest.length :=
        Nat.pow_le_pow_right (by decide) hk
      exact (Double.nearest_of_huge ((hpow 400 hlong).trans hle) negative).symm
    · rw [if_pos (Int.le_refl 0), Int.toNat_zero, Nat.pow_eq, pow_zero, Nat.mul_one]

theorem spanSign_ofInt (i : Int) :
    spanSign (Decimal.ofInt i) = (decide (i < 0), (figures i.natAbs).map digitChar) := by
  rw [Decimal.ofInt, Decimal.digits_eq]
  split
  · rename_i h
    rw [decide_eq_true h]
    rfl
  · rename_i h
    obtain ⟨d, ds, hf⟩ := Decimal.figures_cons i.natAbs
    have hd : d < 10 := Decimal.figures_lt i.natAbs d (by simp [hf])
    have hminus : digitChar d ≠ '-' := Decimal.digitChar_ne hd (by decide)
    have hplus : digitChar d ≠ '+' := Decimal.digitChar_ne hd (by decide)
    simp [hf, spanSign, hminus, hplus, h]

theorem spanDigits_figures (n : Nat) :
    spanDigits ((figures n).map digitChar) = (figures n, []) := by
  have h := @Decimal.spanDigits_map_append _ [] (Decimal.figures_lt n) (by simp)
  rwa [List.append_nil] at h

theorem read?_ofInt (i : Int) :
    read? (Decimal.ofInt i) = some ⟨decide (i < 0), figures i.natAbs, [], 0⟩ := by
  obtain ⟨d, ds, hf⟩ := Decimal.figures_cons i.natAbs
  have hspan := spanDigits_figures i.natAbs
  rw [hf] at hspan
  rw [read?]
  simp only [spanSign_ofInt, hf, hspan]
  rfl

theorem readGrouped?_ofInt (i : Int) : readGrouped? (Decimal.ofInt i) = none := by
  rw [readGrouped?]
  simp only [spanSign_ofInt, spanDigits_figures, spanGroups, List.isEmpty_nil, Bool.or_true,
    if_true]

end Numeral

namespace Decimal

theorem digits_ne_nil (n : Nat) : digits n ≠ [] := by
  obtain ⟨d, ds, hf⟩ := figures_cons n
  rw [digits_eq, hf]
  exact List.cons_ne_nil _ _

theorem ofInt_ne_nil (i : Int) : ofInt i ≠ [] := by
  rw [ofInt]
  split
  · exact List.cons_ne_nil _ _
  · exact digits_ne_nil _

theorem not_isBlank_of_mem_ofInt (h : c ∈ Decimal.ofInt i) : ¬isBlank c := by
  rw [Decimal.ofInt, Decimal.digits_eq] at h
  have hdigit (hc : c ∈ (figures i.natAbs).map digitChar) : ¬isBlank c := by
    obtain ⟨d, hd, rfl⟩ := List.mem_map.mp hc
    exact not_isBlank_of_digit (Decimal.isAsciiDigit_digitChar (Decimal.figures_lt _ d hd))
  split at h
  · rcases List.mem_cons.mp h with rfl | h
    · decide
    · exact hdigit h
  · exact hdigit h

theorem trim_ofInt (i : Int) : trim (Decimal.ofInt i) = Decimal.ofInt i :=
  trim_of_no_blank fun _ => Decimal.not_isBlank_of_mem_ofInt

end Decimal

theorem Loose.readFloat?_ofInt (i : Int) :
    readFloat? (Decimal.ofInt i) = Double.ofInt? i := by
  rw [readFloat?, Numeral.readGrouped?_ofInt, Numeral.read?_ofInt, Option.bind_some,
    Numeral.toDouble_digits, Decimal.ofDigits_figures]
  rfl

end Covenant
