import Covenant.Double
import Mathlib

/-! Which integers are too large for a binary64 number. -/

namespace Covenant.Double

theorem unitsOfOne_eq : unitsOfOne = 2 ^ 1074 := by
  unfold unitsOfOne
  generalize 1074 = n
  exact Nat.pow_eq

theorem unitsOfOne_pos : 0 < unitsOfOne := by
  rw [unitsOfOne_eq]
  positivity

theorem units_of_lt (h : rank < 2 ^ 52) : units rank = rank := if_pos h

/-- A rank as an exponent and a mantissa with its first bit. -/
theorem units_add (hl : 2 ^ 52 ≤ m) (hm : m < 2 ^ 53) (s : Nat) :
    units (s * 2 ^ 52 + m) = m * 2 ^ s := by
  have hd : (s * 2 ^ 52 + m) / 2 ^ 52 = s + 1 := by omega
  have hr : (s * 2 ^ 52 + m) % 2 ^ 52 = m - 2 ^ 52 := by omega
  have hu : units (s * 2 ^ 52 + m) =
      (2 ^ 52 + (s * 2 ^ 52 + m) % 2 ^ 52) * 2 ^ ((s * 2 ^ 52 + m) / 2 ^ 52 - 1) :=
    if_neg (by simp only [Nat.pow_eq]; omega)
  rw [hu, hd, hr, Nat.add_sub_cancel, Nat.add_sub_cancel' hl]

theorem exists_mantissa (h : 2 ^ 52 ≤ rank) :
    ∃ s m, rank = s * 2 ^ 52 + m ∧ 2 ^ 52 ≤ m ∧ m < 2 ^ 53 :=
  ⟨rank / 2 ^ 52 - 1, 2 ^ 52 + rank % 2 ^ 52, by omega, by omega, by omega⟩

theorem units_succ (hl : 2 ^ 52 ≤ m) (hm : m < 2 ^ 53) (s : Nat) :
    units (s * 2 ^ 52 + m + 1) = (m + 1) * 2 ^ s := by
  by_cases he : m + 1 = 2 ^ 53
  · have hs : s * 2 ^ 52 + m + 1 = (s + 1) * 2 ^ 52 + 2 ^ 52 := by omega
    rw [hs, units_add (le_refl _) (by norm_num), he, pow_succ]
    ring
  · rw [Nat.add_assoc]
    exact units_add (by omega) (by omega) s

/-- Up to this rank, the magnitudes are the ranks. -/
theorem units_of_le (h : rank ≤ 2 ^ 53) : units rank = rank := by
  by_cases hl : rank < 2 ^ 52
  · exact units_of_lt hl
  · by_cases hr : rank = 2 ^ 53
    · have hu : units (1 * 2 ^ 52 + 2 ^ 52) = 2 ^ 52 * 2 ^ 1 :=
        units_add (le_refl _) (by norm_num) 1
      rw [hr]
      exact hu
    · have hu : units (0 * 2 ^ 52 + rank) = rank * 2 ^ 0 := units_add (by omega) (by omega) 0
      simpa using hu

theorem units_lt_succ (rank : Nat) : units rank < units (rank + 1) := by
  by_cases h : 2 ^ 52 ≤ rank
  · obtain ⟨s, m, rfl, hl, hm⟩ := exists_mantissa h
    rw [units_add hl hm, units_succ hl hm]
    exact Nat.mul_lt_mul_of_pos_right (Nat.lt_succ_self m) (Nat.two_pow_pos s)
  · rw [units_of_le (by omega), units_of_le (by omega)]
    exact Nat.lt_succ_self rank

theorem units_strictMono : StrictMono units := strictMono_nat_of_lt_succ units_lt_succ

theorem infinityRank_eq : infinityRank = 2046 * 2 ^ 52 + 2 ^ 52 := by decide

theorem units_infinityRank : units infinityRank = 2 ^ 52 * 2 ^ 2046 := by
  rw [infinityRank_eq]
  exact units_add (le_refl _) (by norm_num) 2046

/-- The last rank whose magnitude is at most the given number of units, were there no infinity. -/
theorem floorRank_eq_min (n : Nat) : ∃ rank, floorRank n = Min.min rank infinityRank ∧
    units rank ≤ n ∧ n < units (rank + 1) := by
  by_cases hn : n < 2 ^ 53
  · refine ⟨n, congrArg (Min.min · infinityRank) (if_pos hn), ?_⟩
    rw [units_of_le hn.le, units_of_le hn]
    exact ⟨le_refl n, Nat.lt_succ_self n⟩
  · have hlog : 53 ≤ n.log2 := (Nat.le_log2 (by omega)).mpr (by omega)
    have hl : 2 ^ 52 ≤ n / 2 ^ (n.log2 - 52) := by
      rw [Nat.le_div_iff_mul_le (Nat.two_pow_pos _), ← pow_add, Nat.add_sub_cancel' (by omega)]
      exact Nat.log2_self_le (by omega)
    have hm : n / 2 ^ (n.log2 - 52) < 2 ^ 53 := by
      rw [Nat.div_lt_iff_lt_mul (Nat.two_pow_pos _), ← pow_add,
        show 53 + (n.log2 - 52) = n.log2 + 1 by omega]
      exact Nat.lt_log2_self
    refine ⟨(n.log2 - 52) * 2 ^ 52 + n / 2 ^ (n.log2 - 52),
      congrArg (Min.min · infinityRank) (if_neg hn), ?_⟩
    rw [units_add hl hm, units_succ hl hm]
    refine ⟨Nat.div_mul_le_self n _, ?_⟩
    rw [Nat.mul_comm]
    exact Nat.lt_mul_div_succ n (Nat.two_pow_pos _)

theorem floorRank_of_le (h : units infinityRank ≤ n) : floorRank n = infinityRank := by
  obtain ⟨rank, hf, _, hlt⟩ := floorRank_eq_min n
  have hr : infinityRank < rank + 1 := units_strictMono.lt_iff_lt.mp (h.trans_lt hlt)
  rw [hf, Nat.min_eq_right (Nat.le_of_lt_succ hr)]

theorem floorRank_of_lt (h : n < units infinityRank) :
    floorRank n < infinityRank ∧ units (floorRank n) ≤ n ∧ n < units (floorRank n + 1) := by
  obtain ⟨rank, hf, hle, hlt⟩ := floorRank_eq_min n
  have hr : rank < infinityRank := units_strictMono.lt_iff_lt.mp (hle.trans_lt h)
  rw [hf, Nat.min_eq_left hr.le]
  exact ⟨hr, hle, hlt⟩

theorem ofRank_isFinite : (ofRank negative rank).isFinite = true ↔ rank < infinityRank := by
  simp [ofRank, isFinite]

theorem infinity_isFinite : (infinity negative).isFinite = false := by
  rw [← Bool.not_eq_true, infinity, ofRank_isFinite]
  exact Nat.lt_irrefl _

/-- A number is infinite from the middle between the last finite magnitude and the next one on. -/
theorem nearestUnits_isFinite : (nearestUnits negative num 1).isFinite = true ↔
    2 * num < units (infinityRank - 1) + units infinityRank := by
  have hlast : units (infinityRank - 1) < units infinityRank := units_strictMono (by decide)
  unfold nearestUnits
  simp only [Nat.div_one, Nat.mul_one]
  by_cases h : num < units infinityRank
  · obtain ⟨hr, hle, hlt⟩ := floorRank_of_lt h
    rw [if_neg (by omega)]
    by_cases he : floorRank num = infinityRank - 1
    · have hodd : infinityRank - 1 + (infinityRank - 1) % 2 = infinityRank := by decide
      rw [he, Nat.sub_add_cancel (by decide)]
      split
      · rename_i hc
        exact iff_of_true (ofRank_isFinite.mpr (he ▸ hr)) hc
      · rename_i hc
        refine iff_of_false (fun hf => ?_) hc
        rw [hodd, ite_self] at hf
        exact Nat.lt_irrefl _ (ofRank_isFinite.mp hf)
    · have hu : units (floorRank num + 1) ≤ units (infinityRank - 1) :=
        units_strictMono.monotone (by omega)
      refine iff_of_true ?_ (by omega)
      split
      · exact ofRank_isFinite.mpr hr
      · split
        · exact ofRank_isFinite.mpr (by omega)
        · exact ofRank_isFinite.mpr (by omega)
  · rw [floorRank_of_le (Nat.le_of_not_lt h), if_pos (le_refl _), infinity_isFinite]
    simp only [Bool.false_eq_true, false_iff]
    omega

/-- The middle between the last finite number and the power of two behind it. -/
def leastOverflow : Nat := (2 ^ 54 - 1) * 2 ^ 970

theorem ofInt?_eq_none : ofInt? i = none ↔ leastOverflow ≤ i.natAbs := by
  have hlast : units (infinityRank - 1) = (2 ^ 53 - 1) * 2 ^ 2045 := by
    rw [show infinityRank - 1 = 2045 * 2 ^ 52 + (2 ^ 53 - 1) by decide]
    exact units_add (by norm_num) (by norm_num) 2045
  have hmiddle : (2 ^ 53 - 1) * 2 ^ 2045 + 2 ^ 52 * 2 ^ 2046 = leastOverflow * (2 * 2 ^ 1074) := by
    have hq : 2 ^ 2045 = 2 ^ 970 * (2 * 2 ^ 1074) := by rw [← pow_succ', ← pow_add]
    rw [pow_succ' 2 2045, hq, leastOverflow, Nat.mul_assoc (2 ^ 54 - 1)]
    generalize 2 ^ 970 * (2 * 2 ^ 1074) = q
    omega
  have hn : ofInt? i = none ↔
      ¬(nearestUnits (decide (i < 0)) (i.natAbs * unitsOfOne) 1).isFinite := by
    unfold ofInt? ofInt nearest
    simp
  rw [hn, nearestUnits_isFinite, Nat.not_lt, hlast, units_infinityRank, hmiddle, unitsOfOne_eq,
    Nat.mul_left_comm 2 i.natAbs]
  exact Nat.mul_le_mul_right_iff (by positivity)

theorem ofInt?_isFinite (h : ofInt? i = some x) : x.isFinite = true := by
  unfold ofInt? at h
  generalize ofInt i = y at h
  dsimp only at h
  split at h
  · rename_i hy
    exact Option.some.inj h ▸ hy
  · cases h

theorem ofInt_isFinite (h : i.natAbs < leastOverflow) : (ofInt i).isFinite = true := by
  by_contra hf
  refine absurd (ofInt?_eq_none.mp ?_) (Nat.not_le_of_lt h)
  unfold ofInt?
  generalize ofInt i = y at hf
  exact if_neg hf

theorem one_lt_leastOverflow : 1 < leastOverflow :=
  Nat.lt_of_lt_of_le (by norm_num) (Nat.le_mul_of_pos_right _ (Nat.two_pow_pos 970))

end Covenant.Double
