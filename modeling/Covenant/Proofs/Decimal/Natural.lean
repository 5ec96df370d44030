import Covenant.Proofs.Decimal.ToDouble

/-! Natural numbers that are read as binary64 numbers, and decimals up to a natural number, which
are read as binary64 numbers up to it. -/

namespace Covenant

open Decimal (digitChar)
open Double (units unitsOfOne ofRank infinity RoundsTo)

namespace Double

/-- Up to `2 ^ 53`, every natural number is the magnitude of a rank. -/
theorem exists_rank (h0 : 0 < n) (h : n ≤ 2 ^ 53) : ∃ rank, units rank = n * unitsOfOne := by
  rcases h.lt_or_eq with hlt | rfl
  · have hl : 2 ^ n.log2 ≤ n := Nat.log2_self_le (by omega)
    have hg : n < 2 ^ (n.log2 + 1) := Nat.lt_log2_self
    have hlog : n.log2 < 53 := (Nat.log2_lt (by omega)).mpr hlt
    refine ⟨(1022 + n.log2) * 2 ^ 52 + n * 2 ^ (52 - n.log2), ?_⟩
    have hlow : 2 ^ 52 ≤ n * 2 ^ (52 - n.log2) := by
      calc 2 ^ 52 = 2 ^ n.log2 * 2 ^ (52 - n.log2) := by
            rw [← pow_add, Nat.add_sub_cancel' (by omega)]
        _ ≤ n * 2 ^ (52 - n.log2) := Nat.mul_le_mul_right _ hl
    have hhigh : n * 2 ^ (52 - n.log2) < 2 ^ 53 := by
      calc n * 2 ^ (52 - n.log2) < 2 ^ (n.log2 + 1) * 2 ^ (52 - n.log2) :=
            Nat.mul_lt_mul_of_pos_right hg (Nat.two_pow_pos _)
        _ = 2 ^ 53 := by rw [← pow_add, show n.log2 + 1 + (52 - n.log2) = 53 by omega]
    rw [units_add hlow hhigh, unitsOfOne_eq, Nat.mul_assoc, ← pow_add,
      show 52 - n.log2 + (1022 + n.log2) = 1074 by omega]
  · refine ⟨1075 * 2 ^ 52 + 2 ^ 52, ?_⟩
    rw [units_add (Nat.le_refl _) (by norm_num), unitsOfOne_eq, ← pow_add, ← pow_add]

theorem mul_unitsOfOne_lt (h : n ≤ 2 ^ 53) : n * unitsOfOne < units infinityRank := by
  refine (Nat.mul_le_mul_right unitsOfOne h).trans_lt ?_
  rw [units_infinityRank, unitsOfOne_eq, ← pow_add, ← pow_add]
  exact pow_lt_pow_right₀ (by decide) (by decide)

theorem lt_infinityRank_of_units (hu : units rank = n * unitsOfOne) (h : n ≤ 2 ^ 53) :
    rank < infinityRank := by
  refine units_strictMono.lt_iff_lt.mp ?_
  rw [hu]
  exact mul_unitsOfOne_lt h

/-- A number that is the magnitude of a rank is read as that rank. -/
theorem RoundsTo.of_units (hu : units rank = n * unitsOfOne) (h0 : 0 < rank) :
    RoundsTo rank n 1 := by
  have hlow : units (rank - 1) < units rank := units_strictMono (by omega)
  have hhigh := units_lt_succ rank
  constructor <;> omega

theorem floorRank_zero : floorRank 0 = 0 := by decide

theorem nearest_zero (negative : Bool) (h : 0 < den) :
    nearest negative 0 den = ofRank negative 0 := by
  have hpos : 0 < (units 0 + units 1) * den := Nat.mul_pos (by decide) h
  have hinf : ¬infinityRank ≤ 0 := by decide
  unfold nearest nearestUnits
  simp only [Nat.zero_mul, Nat.zero_div, floorRank_zero, if_neg hinf, Nat.mul_zero, Nat.zero_add,
    if_pos hpos]

theorem nearestUnits_eq (negative : Bool) (num den : Nat) :
    ∃ rank, nearestUnits negative num den = ofRank negative rank ∧
      floorRank (num / den) ≤ rank := by
  unfold nearestUnits
  generalize floorRank (num / den) = below
  dsimp only
  split
  · rename_i hb
    refine ⟨below, ?_, Nat.le_refl _⟩
    simp only [infinity, ofRank, Nat.min_self, Nat.min_eq_right hb]
  · split
    · exact ⟨below, rfl, Nat.le_refl _⟩
    · split
      · exact ⟨below + 1, rfl, Nat.le_succ _⟩
      · exact ⟨below + below % 2, rfl, Nat.le_add_right _ _⟩

/-- From `2 ^ 53` on, no natural number is read as a smaller one. -/
theorem nearest_of_le (h : 2 ^ 53 ≤ n) :
    ∃ rank, nearest false n 1 = ofRank false rank ∧
      2 ^ 53 * unitsOfOne ≤ units (Min.min rank infinityRank) := by
  obtain ⟨least, hleast⟩ := exists_rank (n := 2 ^ 53) (by norm_num) (Nat.le_refl _)
  have hinf := lt_infinityRank_of_units hleast (Nat.le_refl _)
  obtain ⟨rank, hr, hle⟩ := nearestUnits_eq false (n * unitsOfOne) 1
  obtain ⟨below, hb, _, hnext⟩ := floorRank_eq_min (n * unitsOfOne)
  -- the rank of `2 ^ 53` is not above the rank below `n`, and the nearest is not below that
  have hbelow : least ≤ below := by
    refine Nat.le_of_lt_succ (units_strictMono.lt_iff_lt.mp ?_)
    rw [hleast]
    exact (Nat.mul_le_mul_right unitsOfOne h).trans_lt hnext
  rw [Nat.div_one, hb] at hle
  rw [nearest, hr, ← hleast]
  exact ⟨rank, rfl, units_strictMono.monotone (Nat.le_min.mpr ⟨by omega, hinf.le⟩)⟩

end Double

namespace Numeral

/-- The numeral of nothing but digits. -/
def ofWhole (ds : List Nat) : Numeral := ⟨false, ds, [], 0⟩

theorem toDouble_ofWhole_zero (h : ofDigits ds = 0) : (ofWhole ds).toDouble = ofRank false 0 := by
  have hdrop : ds.dropWhile (· == 0) = [] := by
    cases hc : ds.dropWhile (· == 0) with
    | nil => rfl
    | cons d rest =>
      have hd := List.head_dropWhile_not (p := (· == 0)) (l := ds) (by simp [hc])
      have hvalue := ofDigits_dropWhile ds
      have hle := pow_le_ofDigits (d := d) (by simpa [hc] using hd) rest
      rw [← hc, hvalue, h] at hle
      exact absurd hle (Nat.not_le.mpr (by positivity))
  simp [toDouble, ofWhole, hdrop]

/-- Up to `2 ^ 53`, a natural number is read exactly. -/
theorem toDouble_ofWhole (hd : ∀ d ∈ ds, d < 10) (h : ofDigits ds ≤ 2 ^ 53) :
    ∃ rank < infinityRank, (ofWhole ds).toDouble = ofRank false rank ∧
      units rank = ofDigits ds * unitsOfOne := by
  by_cases h0 : ofDigits ds = 0
  · exact ⟨0, by decide, toDouble_ofWhole_zero h0, by rw [h0, Nat.zero_mul]; rfl⟩
  · have hpos := Nat.pos_of_ne_zero h0
    obtain ⟨rank, hu⟩ := Double.exists_rank hpos h
    have hinf := Double.lt_infinityRank_of_units hu h
    have hrank : 0 < rank := by
      refine Nat.pos_of_ne_zero fun hr => ?_
      rw [hr] at hu
      have := Nat.mul_pos hpos Double.unitsOfOne_pos
      exact absurd hu.symm this.ne'
    have hround := RoundsTo.of_units hu hrank
    refine ⟨rank, hinf, toDouble_eq (n := ofWhole ds) ?_ ?_ hrank hinf ?_, hu⟩
    · simpa [ofWhole] using hd
    · simpa [ofWhole] using hpos
    · simpa [ofWhole, scale] using hround

/-- From `2 ^ 53` on, no natural number is read as a smaller one. -/
theorem toDouble_ofWhole_of_le (h : 2 ^ 53 ≤ ofDigits ds) :
    ∃ rank, (ofWhole ds).toDouble = ofRank false rank ∧
      2 ^ 53 * unitsOfOne ≤ units (min rank infinityRank) := by
  obtain ⟨d, rest, hdrop, _⟩ := dropWhile_zeros (Nat.lt_of_lt_of_le (by norm_num) h)
  have hvalue := ofDigits_dropWhile ds
  rw [hdrop] at hvalue
  simp only [ofWhole, toDouble, List.append_nil, hdrop, hvalue, List.length_nil, Nat.cast_zero,
    Int.sub_self, Int.zero_add, List.isEmpty_cons, Bool.false_or, decide_eq_true_eq,
    Int.toNat_zero, Nat.pow_eq, pow_zero, Nat.mul_one, if_pos (Int.le_refl 0)]
  rw [if_neg (by unfold positionLimit; omega)]
  split
  · exact ⟨infinityRank, rfl, by
      rw [Nat.min_self]
      exact (Double.mul_unitsOfOne_lt (Nat.le_refl _)).le⟩
  · exact Double.nearest_of_le h

/-- Digits alone are read digit by digit. -/
theorem read?_map_digitChar (h : ∀ d ∈ ds, d < 10) (hne : ds ≠ []) :
    read? (ds.map digitChar) = some (ofWhole ds) := by
  obtain ⟨d, rest, rfl⟩ := List.exists_cons_of_ne_nil hne
  have hd := h d (by simp)
  have hsign : spanSign ((d :: rest).map digitChar) = (false, (d :: rest).map digitChar) := by
    have hminus : digitChar d ≠ '-' := Decimal.digitChar_ne hd (by decide)
    have hplus : digitChar d ≠ '+' := Decimal.digitChar_ne hd (by decide)
    simp [spanSign, hminus, hplus]
  have hspan := @Decimal.spanDigits_map_append _ [] h (by simp)
  rw [List.append_nil] at hspan
  rw [read?]
  simp only [hsign, hspan]
  rfl

end Numeral

open Numeral (ofDigits)

namespace Double

variable {rank r num den n : Nat}

/-- A number whose magnitude is at most a natural number. -/
def IsUpTo (n : Nat) (x : Double) : Prop :=
  ∃ negative rank, x = ofRank negative rank ∧ rank < infinityRank ∧ units rank ≤ n * unitsOfOne

theorem IsUpTo.zero (n : Nat) (negative : Bool) : IsUpTo n (ofRank negative 0) :=
  ⟨negative, 0, rfl, by decide, Nat.zero_le _⟩

theorem nearestUnits_le (hd : 0 < den) (hr : r < infinityRank) (h : num ≤ units r * den)
    (negative : Bool) : ∃ rank ≤ r, nearestUnits negative num den = ofRank negative rank := by
  have hdiv : num / den ≤ units r := Nat.div_le_of_le_mul (Nat.mul_comm den _ ▸ h)
  obtain ⟨hinf, hle, _⟩ := floorRank_of_lt (hdiv.trans_lt (units_strictMono hr))
  have hbelow : floorRank (num / den) ≤ r := units_strictMono.le_iff_le.mp (hle.trans hdiv)
  unfold nearestUnits
  dsimp only
  rw [if_neg (Nat.not_le.mpr hinf)]
  rcases hbelow.lt_or_eq with hlt | heq
  · split
    · exact ⟨_, hbelow, rfl⟩
    · split
      · exact ⟨_, hlt, rfl⟩
      · exact ⟨_, by omega, rfl⟩
  · rw [heq, if_pos]
    · exact ⟨r, le_rfl, rfl⟩
    · calc 2 * num ≤ 2 * (units r * den) := Nat.mul_le_mul_left 2 h
        _ = 2 * units r * den := (Nat.mul_assoc _ _ _).symm
        _ < (units r + units (r + 1)) * den :=
          Nat.mul_lt_mul_of_pos_right (by have := units_lt_succ r; omega) hd

theorem nearest_isUpTo (hd : 0 < den) (h0 : 0 < n) (hn : n ≤ 2 ^ 53) (h : num ≤ n * den)
    (negative : Bool) : IsUpTo n (nearest negative num den) := by
  obtain ⟨r, hr⟩ := exists_rank h0 hn
  have hinf := lt_infinityRank_of_units hr hn
  have hnum : num * unitsOfOne ≤ units r * den := by
    rw [hr, Nat.mul_right_comm]
    exact Nat.mul_le_mul_right _ h
  obtain ⟨rank, hrank, he⟩ := nearestUnits_le hd hinf hnum negative
  exact ⟨negative, rank, he, hrank.trans_lt hinf, hr ▸ units_strictMono.monotone hrank⟩

end Double

namespace Numeral

theorem toDouble_isUpTo {m : Numeral} (he : m.exponent = 0) (h0 : 0 < n) (hn : n ≤ 2 ^ 53)
    (h : ofDigits (m.whole ++ m.fraction) ≤ n * 10 ^ m.fraction.length) :
    Double.IsUpTo n m.toDouble := by
  rw [← ofDigits_dropWhile] at h
  have hhead := List.head?_dropWhile_not (· == 0) (m.whole ++ m.fraction)
  unfold toDouble
  dsimp only
  cases hdrop : (m.whole ++ m.fraction).dropWhile (· == 0) with
  | nil => exact .zero n m.negative
  | cons d ds =>
    rw [hdrop] at h hhead
    have hle := (pow_le_ofDigits (by simpa using hhead) ds).trans h
    have hlen : ds.length < 16 + m.fraction.length := by
      rw [← Nat.pow_lt_pow_iff_right (show 1 < 10 by decide), pow_add]
      refine hle.trans_lt (Nat.mul_lt_mul_of_pos_right (hn.trans_lt ?_) (by positivity))
      norm_num
    have hposition : ¬positionLimit < m.exponent - m.fraction.length + (d :: ds).length := by
      rw [he, positionLimit, List.length_cons]
      omega
    rw [if_neg hposition]
    split
    · exact .zero n m.negative
    · split
      · rename_i hscale
        rw [he] at hscale ⊢
        have hf : m.fraction.length = 0 := by omega
        rw [hf, pow_zero, Nat.mul_one] at h
        refine Double.nearest_isUpTo Nat.one_pos h0 hn ?_ m.negative
        rw [hf]
        simpa using h
      · refine Double.nearest_isUpTo (Nat.pow_pos (by decide)) h0 hn ?_ m.negative
        rw [he, zero_sub, neg_neg, Int.toNat_natCast]
        exact h

end Numeral
end Covenant
