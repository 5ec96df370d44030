import Covenant.Decimal.Shortest
import Covenant.Proofs.Decimal.ToDouble

/-! The shortest decimal of a binary64 number lies where it is read as that number. -/

namespace Covenant

open Double (units unitsOfOne RoundsTo)

namespace Decimal

/-- The decimal as a fraction. -/
def Scientific.num (d : Scientific) : Nat := d.coefficient * 10 ^ d.exponent.toNat

def Scientific.den (d : Scientific) : Nat := 10 ^ (-d.exponent).toNat

theorem strip_eq (fuel c : Nat) (e : Int) :
    ∃ k : Nat, c = (strip fuel c e).coefficient * 10 ^ k ∧ (strip fuel c e).exponent = e + k := by
  induction fuel generalizing c e with
  | zero => exact ⟨0, (Nat.mul_one c).symm, (Int.add_zero e).symm⟩
  | succ fuel ih =>
    rw [strip]
    split
    · rename_i h
      obtain ⟨k, hc, he⟩ := ih (c / 10) (e + 1)
      refine ⟨k + 1, ?_, by rw [he]; omega⟩
      rw [pow_succ, ← Nat.mul_assoc, ← hc]
      omega
    · exact ⟨0, (Nat.mul_one c).symm, (Int.add_zero e).symm⟩

/-- The zeros that are dropped do not change the value. -/
theorem roundsTo_strip (h : RoundsTo rank (c * 10 ^ e.toNat) (10 ^ (-e).toNat)) (fuel : Nat) :
    RoundsTo rank (strip fuel c e).num (strip fuel c e).den := by
  obtain ⟨k, hc, he⟩ := strip_eq fuel c e
  refine h.congr (by positivity) (by rw [Scientific.den]; positivity) ?_
  rw [Scientific.num, Scientific.den, he]
  generalize (strip fuel c e).coefficient = c' at hc ⊢
  rw [hc, Nat.mul_assoc, Nat.mul_assoc, Nat.mul_assoc, ← pow_add, ← pow_add, ← pow_add]
  congr 2
  omega

theorem coefficient_strip_pos (h : 0 < c) (fuel : Nat) (e : Int) :
    0 < (strip fuel c e).coefficient := by
  obtain ⟨k, hc, _⟩ := strip_eq fuel c e
  rw [hc] at h
  exact Nat.pos_of_mul_pos_right h

/-- Whether a multiple of a power of ten is read as a rank. -/
def inside (rank : Nat) (e : Int) (c : Nat) : Bool :=
  let u := units rank
  let num := if 0 ≤ e then 1 else Nat.pow 10 (-e).toNat
  let den := if 0 ≤ e then Nat.pow 10 e.toNat else 1
  let step := 2 * den * unitsOfOne
  let low := (u + units (rank - 1)) * num
  let high := (u + units (rank + 1)) * num
  if rank % 2 = 0 then low ≤ c * step && c * step ≤ high else low < c * step && c * step < high

theorem num_eq (e : Int) : (if 0 ≤ e then 1 else Nat.pow 10 (-e).toNat) = 10 ^ (-e).toNat := by
  split
  · rw [show (-e).toNat = 0 by omega, pow_zero]
  · rfl

theorem den_eq (e : Int) : (if 0 ≤ e then Nat.pow 10 e.toNat else 1) = 10 ^ e.toNat := by
  split
  · rfl
  · rw [show e.toNat = 0 by omega, pow_zero]

theorem inside_eq (rank : Nat) (e : Int) (c : Nat) :
    inside rank e c =
      if rank % 2 = 0 then
        (decide ((units rank + units (rank - 1)) * 10 ^ (-e).toNat ≤
            c * (2 * 10 ^ e.toNat * unitsOfOne)) &&
          decide (c * (2 * 10 ^ e.toNat * unitsOfOne) ≤
            (units rank + units (rank + 1)) * 10 ^ (-e).toNat))
      else
        (decide ((units rank + units (rank - 1)) * 10 ^ (-e).toNat <
            c * (2 * 10 ^ e.toNat * unitsOfOne)) &&
          decide (c * (2 * 10 ^ e.toNat * unitsOfOne) <
            (units rank + units (rank + 1)) * 10 ^ (-e).toNat)) := by
  simp only [inside, num_eq, den_eq]

theorem roundsTo_of_inside (h : inside rank e c) :
    RoundsTo rank (c * 10 ^ e.toNat) (10 ^ (-e).toNat) := by
  have hc : c * (2 * 10 ^ e.toNat * unitsOfOne) = 2 * (c * 10 ^ e.toNat * unitsOfOne) := by ring
  rw [inside_eq, hc, Nat.add_comm (units rank) (units (rank - 1))] at h
  split at h
  · rename_i he
    rw [Bool.and_eq_true, decide_eq_true_eq, decide_eq_true_eq] at h
    exact ⟨h.1, h.2, fun _ => he, fun _ => he⟩
  · rw [Bool.and_eq_true, decide_eq_true_eq, decide_eq_true_eq] at h
    exact ⟨h.1.le, h.2.le, fun he => absurd he h.1.ne, fun he => absurd he h.2.ne⟩

theorem pos_of_roundsTo (h : RoundsTo rank (c * n) den) (hd : 0 < den) (h0 : 0 < rank) :
    0 < c := by
  refine Nat.pos_of_ne_zero fun hc => ?_
  have hu : 0 < units rank := (Nat.zero_le _).trans_lt (Double.units_strictMono h0)
  have hlow := h.low
  rw [hc, Nat.zero_mul, Nat.zero_mul, Nat.mul_zero] at hlow
  exact absurd hlow (Nat.not_le.mpr (Nat.mul_pos (by omega) hd))

/-- The last multiple of a power of ten up to the magnitude of a rank. -/
def below (rank : Nat) (e : Int) : Nat :=
  2 * units rank * (if 0 ≤ e then 1 else Nat.pow 10 (-e).toNat) /
    (2 * (if 0 ≤ e then Nat.pow 10 e.toNat else 1) * unitsOfOne)

theorem below_eq (rank : Nat) (e : Int) :
    below rank e = 2 * units rank * 10 ^ (-e).toNat / (2 * 10 ^ e.toNat * unitsOfOne) := by
  rw [below, num_eq, den_eq]

theorem onGrid?_eq (rank : Nat) (leading : Int) (count : Nat) :
    ∃ closer : Bool, onGrid? rank leading count =
      let e := leading - count
      let c := below rank e
      match inside rank e c, inside rank e (c + 1) with
      | true, false => some (strip count c e)
      | false, true => some (strip (count + 1) (c + 1) e)
      | true, true =>
        if closer then some (strip count c e) else some (strip (count + 1) (c + 1) e)
      | false, false => none :=
  ⟨_, rfl⟩

theorem onGrid?_eq_some (h : onGrid? rank leading count = some d) :
    ∃ c fuel, inside rank (leading - count) c ∧ d = strip fuel c (leading - count) := by
  obtain ⟨closer, he⟩ := onGrid?_eq rank leading count
  rw [he] at h
  dsimp only at h
  split at h
  · rename_i hc _
    exact ⟨_, _, hc, (Option.some.inj h).symm⟩
  · rename_i hc
    exact ⟨_, _, hc, (Option.some.inj h).symm⟩
  · rename_i hc hs
    split at h
    · exact ⟨_, _, hc, (Option.some.inj h).symm⟩
    · exact ⟨_, _, hs, (Option.some.inj h).symm⟩
  · cases h

theorem not_inside_of_onGrid? (h : onGrid? rank leading count = none) :
    inside rank (leading - count) (below rank (leading - count)) = false ∧
      inside rank (leading - count) (below rank (leading - count) + 1) = false := by
  obtain ⟨closer, he⟩ := onGrid?_eq rank leading count
  rw [he] at h
  dsimp only at h
  split at h
  · cases h
  · cases h
  · split at h
    · cases h
    · cases h
  · rename_i hc hs
    exact ⟨hc, hs⟩

/-- A step that is smaller than the interval does not leap over it. -/
theorem step_of_not_inside (hrank : 0 < rank) (hc : inside rank e (below rank e) = false)
    (hs : inside rank e (below rank e + 1) = false) :
    units (rank + 1) * 10 ^ (-e).toNat ≤
      units (rank - 1) * 10 ^ (-e).toNat + 2 * 10 ^ e.toNat * unitsOfOne := by
  have hlow : units (rank - 1) < units rank := Double.units_strictMono (by omega)
  have hhigh : units rank < units (rank + 1) := Double.units_lt_succ rank
  rw [inside_eq, below_eq] at hc hs
  have hd : 0 < 10 ^ (-e).toNat := by positivity
  have hstep : 0 < 2 * 10 ^ e.toNat * unitsOfOne :=
    Nat.mul_pos (by positivity) Double.unitsOfOne_pos
  generalize 10 ^ (-e).toNat = num at *
  generalize 2 * 10 ^ e.toNat * unitsOfOne = step at *
  have hfrom := Nat.div_mul_le_self (2 * units rank * num) step
  have hto := Nat.lt_mul_div_succ (2 * units rank * num) hstep
  have hl := Nat.mul_lt_mul_of_pos_right hlow hd
  have hh := Nat.mul_lt_mul_of_pos_right hhigh hd
  generalize 2 * units rank * num / step = c at *
  rw [Nat.mul_comm step, Nat.succ_mul c step, Nat.mul_assoc] at hto
  rw [Nat.mul_assoc] at hfrom
  simp only [Nat.add_mul, Nat.one_mul] at hc hs
  split at hc
  · rw [if_pos (by assumption)] at hs
    simp only [Bool.and_eq_false_iff, decide_eq_false_iff_not] at hc hs
    omega
  · rw [if_neg (by assumption)] at hs
    simp only [Bool.and_eq_false_iff, decide_eq_false_iff_not] at hc hs
    omega

/-- The first digit of a magnitude is at the leading position or before. -/
theorem estimate_le (h0 : 0 < u) (hl : u.log2 < 52 + 2046)
    (hk : k = ((u.log2 : Int) - 1074) * 30103 / 100000 - 2) :
    10 ^ k.toNat * unitsOfOne ≤ u * 10 ^ (-k).toNat := by
  have hlog : 2 ^ u.log2 ≤ u := Nat.log2_self_le h0.ne'
  rw [Double.unitsOfOne_eq]
  by_cases h : 1074 ≤ u.log2
  · -- ten is at most two to the power of ten thirds
    have hpow : 10 ^ k.toNat ≤ 2 ^ (u.log2 - 1074) := by
      have hthree : (10 ^ k.toNat) ^ 3 ≤ (2 ^ (u.log2 - 1074)) ^ 3 := by
        calc (10 ^ k.toNat) ^ 3 = (10 ^ 3) ^ k.toNat := by rw [← pow_mul, ← pow_mul, Nat.mul_comm]
          _ ≤ (2 ^ 10) ^ k.toNat := Nat.pow_le_pow_left (by norm_num) _
          _ = 2 ^ (10 * k.toNat) := (pow_mul 2 10 _).symm
          _ ≤ 2 ^ ((u.log2 - 1074) * 3) := Nat.pow_le_pow_right (by norm_num) (by omega)
          _ = (2 ^ (u.log2 - 1074)) ^ 3 := pow_mul 2 _ 3
      exact (Nat.pow_le_pow_iff_left (by norm_num)).mp hthree
    calc 10 ^ k.toNat * 2 ^ 1074 ≤ 2 ^ (u.log2 - 1074) * 2 ^ 1074 := Nat.mul_le_mul_right _ hpow
      _ = 2 ^ u.log2 := by rw [← pow_add, Nat.sub_add_cancel h]
      _ ≤ u := hlog
      _ ≤ u * 10 ^ (-k).toNat := Nat.le_mul_of_pos_right u (by positivity)
  · have hpow : 2 ^ (1074 - u.log2) ≤ 10 ^ (-k).toNat := by
      have hmany : (2 ^ (1074 - u.log2)) ^ 53 ≤ (10 ^ (-k).toNat) ^ 53 := by
        calc (2 ^ (1074 - u.log2)) ^ 53 = (2 ^ 53) ^ (1074 - u.log2) := by
              rw [← pow_mul, ← pow_mul, Nat.mul_comm]
          _ ≤ (10 ^ 16) ^ (1074 - u.log2) := Nat.pow_le_pow_left (by norm_num) _
          _ = 10 ^ (16 * (1074 - u.log2)) := (pow_mul 10 16 _).symm
          _ ≤ 10 ^ ((-k).toNat * 53) := Nat.pow_le_pow_right (by norm_num) (by omega)
          _ = (10 ^ (-k).toNat) ^ 53 := pow_mul 10 _ 53
      exact (Nat.pow_le_pow_iff_left (by norm_num)).mp hmany
    rw [show k.toNat = 0 by omega, pow_zero, Nat.one_mul]
    calc 2 ^ 1074 = 2 ^ u.log2 * 2 ^ (1074 - u.log2) := by
          rw [← pow_add, Nat.add_sub_cancel' (by omega)]
      _ ≤ u * 10 ^ (-k).toNat := Nat.mul_le_mul hlog hpow

theorem log2_lt_add (h0 : n ≠ 0) (h : n < 2 ^ a * 2 ^ b) : n.log2 < a + b := by
  rw [← pow_add] at h
  exact (Nat.log2_lt h0).mpr h

theorem log2_units_lt (h0 : 0 < rank) (hi : rank < infinityRank) :
    (units rank).log2 < 52 + 2046 := by
  have hu : 0 < units rank := (Nat.zero_le _).trans_lt (Double.units_strictMono h0)
  have hlt : units rank < units infinityRank := Double.units_strictMono hi
  rw [Double.units_infinityRank] at hlt
  exact log2_lt_add hu.ne' hlt

/-- Whether the magnitude of a rank is below a power of ten. -/
def fits (rank : Nat) (k : Int) : Bool :=
  if 0 ≤ k then units rank < Nat.pow 10 k.toNat * unitsOfOne
  else units rank * Nat.pow 10 (-k).toNat < unitsOfOne

theorem leadingPosition_eq (rank : Nat) :
    leadingPosition rank =
      let k : Int := ((units rank).log2 - 1074) * 30103 / 100000 - 1
      if fits rank k then k
      else if fits rank (k + 1) then k + 1
      else if fits rank (k + 2) then k + 2
      else k + 3 := rfl

theorem pow_le_of_not_fits (h : ¬fits rank k) :
    10 ^ k.toNat * unitsOfOne ≤ units rank * 10 ^ (-k).toNat := by
  unfold fits at h
  split at h
  · rw [decide_eq_true_eq, Nat.not_lt] at h
    rw [show (-k).toNat = 0 by omega, pow_zero, Nat.mul_one]
    exact h
  · rw [decide_eq_true_eq, Nat.not_lt] at h
    rw [show k.toNat = 0 by omega, pow_zero, Nat.one_mul]
    exact h

theorem leadingPosition_le (h0 : 0 < rank) (hi : rank < infinityRank) :
    10 ^ (leadingPosition rank - 1).toNat * unitsOfOne ≤
      units rank * 10 ^ (-(leadingPosition rank - 1)).toNat := by
  have hu : 0 < units rank := (Nat.zero_le _).trans_lt (Double.units_strictMono h0)
  have hfirst := estimate_le hu (log2_units_lt h0 hi) rfl
  rw [leadingPosition_eq]
  dsimp only
  generalize ((units rank).log2 - 1074 : Int) * 30103 / 100000 = k at *
  split
  · rw [show k - 1 - 1 = k - 2 by omega]
    exact hfirst
  · rename_i h
    split
    · rw [show k - 1 + 1 - 1 = k - 1 by omega]
      exact pow_le_of_not_fits h
    · rename_i h
      split
      · rw [show k - 1 + 2 - 1 = k - 1 + 1 by omega]
        exact pow_le_of_not_fits h
      · rename_i h
        rw [show k - 1 + 3 - 1 = k - 1 + 2 by omega]
        exact pow_le_of_not_fits h

/-- The neighbours of a number lie further apart than one part in ten to the sixteenth of its
double. -/
theorem units_spacing (h0 : 0 < rank) :
    2 * units rank + 10 ^ 16 * units (rank - 1) < 10 ^ 16 * units (rank + 1) := by
  by_cases hr : rank < 2 ^ 53
  · rw [Double.units_of_le (by omega), Double.units_of_le (by omega), Double.units_of_le (by omega)]
    omega
  · obtain ⟨s, m, rfl, hl, hm⟩ := Double.exists_mantissa (show 2 ^ 52 ≤ rank by omega)
    rw [Double.units_add hl hm, Double.units_succ hl hm]
    by_cases he : m = 2 ^ 52
    · subst he
      obtain ⟨t, rfl⟩ : ∃ t, s = t + 1 := ⟨s - 1, by omega⟩
      rw [show (t + 1) * 2 ^ 52 + 2 ^ 52 - 1 = t * 2 ^ 52 + (2 ^ 53 - 1) by omega,
        Double.units_add (by norm_num) (by norm_num), pow_succ 2 t]
      have hx := Nat.two_pow_pos t
      generalize 2 ^ t = x at *
      omega
    · rw [show s * 2 ^ 52 + m - 1 = s * 2 ^ 52 + (m - 1) by omega,
        Double.units_add (by omega) (by omega)]
      calc 2 * (m * 2 ^ s) + 10 ^ 16 * ((m - 1) * 2 ^ s) = (2 * m + 10 ^ 16 * (m - 1)) * 2 ^ s := by
            ring
        _ < 10 ^ 16 * (m + 1) * 2 ^ s :=
          Nat.mul_lt_mul_of_pos_right (by omega) (Nat.two_pow_pos s)
        _ = 10 ^ 16 * ((m + 1) * 2 ^ s) := Nat.mul_assoc _ _ _

/-- With 17 digits there is always a decimal that is read as the number. -/
theorem onGrid?_seventeen (h0 : 0 < rank) (hi : rank < infinityRank) :
    onGrid? rank (leadingPosition rank) 17 ≠ none := by
  intro hn
  obtain ⟨hc, hs⟩ := not_inside_of_onGrid? hn
  have hstep := step_of_not_inside h0 hc hs
  have hlead := leadingPosition_le h0 hi
  have hspace := units_spacing h0
  push_cast at hstep
  generalize leadingPosition rank = k at *
  have hpow : 10 ^ (k - 17).toNat * (10 ^ 16 * 10 ^ (-(k - 1)).toNat) =
      10 ^ (k - 1).toNat * 10 ^ (-(k - 17)).toNat := by
    rw [← pow_add, ← pow_add, ← pow_add]
    congr 1
    omega
  have hb : 0 < 10 ^ (-(k - 17)).toNat * 10 ^ (-(k - 1)).toNat := by positivity
  generalize units (rank - 1) = l at *
  generalize units (rank + 1) = h at *
  generalize 10 ^ (k - 17).toNat = a at *
  generalize 10 ^ (-(k - 17)).toNat = b at *
  generalize 10 ^ (k - 1).toNat = p at *
  generalize 10 ^ (-(k - 1)).toNat = q at *
  refine Nat.not_lt.mpr (Nat.le_of_mul_le_mul_right ?_ hb) hspace
  calc 10 ^ 16 * h * (b * q) = h * b * (10 ^ 16 * q) := by ring
    _ ≤ (l * b + 2 * a * unitsOfOne) * (10 ^ 16 * q) := Nat.mul_le_mul_right _ hstep
    _ = 10 ^ 16 * l * (b * q) + 2 * unitsOfOne * (a * (10 ^ 16 * q)) := by ring
    _ = 10 ^ 16 * l * (b * q) + 2 * b * (p * unitsOfOne) := by rw [hpow]; ring
    _ ≤ 10 ^ 16 * l * (b * q) + 2 * b * (units rank * q) := by
      exact Nat.add_le_add_left (Nat.mul_le_mul_left _ hlead) _
    _ = (2 * units rank + 10 ^ 16 * l) * (b * q) := by ring

theorem shortestFrom_eq (h : onGrid? rank leading (count + fuel) ≠ none) :
    ∃ n, onGrid? rank leading n = some (shortestFrom rank leading fuel count) := by
  induction fuel generalizing count with
  | zero =>
    obtain ⟨d, hd⟩ := Option.ne_none_iff_exists'.mp h
    rw [Nat.add_zero] at hd
    exact ⟨count, by rw [shortestFrom, hd, Option.getD_some]⟩
  | succ fuel ih =>
    rw [shortestFrom]
    split
    · rename_i d hd
      exact ⟨count, hd⟩
    · exact ih (by rwa [Nat.add_assoc, Nat.add_comm 1])

/-- The shortest decimal of a number is read as the number. -/
theorem roundsTo_shortest (h0 : 0 < rank) (hi : rank < infinityRank) :
    0 < (shortest rank).coefficient ∧
      RoundsTo rank (shortest rank).num (shortest rank).den := by
  have hsome : onGrid? rank (leadingPosition rank) (1 + 16) ≠ none := onGrid?_seventeen h0 hi
  obtain ⟨n, hn⟩ := shortestFrom_eq hsome
  obtain ⟨c, fuel, hc, hd⟩ := onGrid?_eq_some hn
  have hr := roundsTo_of_inside hc
  have hpos := pos_of_roundsTo hr (by positivity) h0
  have hs : shortest rank = strip fuel c _ := hd
  rw [hs]
  exact ⟨coefficient_strip_pos hpos fuel _, roundsTo_strip hr fuel⟩

end Decimal
end Covenant
