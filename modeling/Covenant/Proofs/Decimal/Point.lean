import Covenant.Proofs.Decimal.Natural
import Covenant.Proofs.Decimal.Written
import Covenant.Proofs.Double.Exact

/-! Where the point of the shortest decimal stands, and which numbers are written without an
exponent. -/

namespace Covenant

open Double (units unitsOfOne ofRank RoundsTo)
open Numeral (ofDigits)

namespace Double

variable {rank r num den : Nat}

/-- A fraction that is read as a number is on the same side of all other numbers. -/
theorem RoundsTo.lt (h : RoundsTo rank num den) (hd : 0 < den) (hr : rank < r) :
    num * unitsOfOne < units r * den := by
  have hlow : units rank < units r := units_strictMono hr
  have hhigh : units (rank + 1) ≤ units r := units_strictMono.monotone hr
  refine Nat.lt_of_mul_lt_mul_left (a := 2) ?_
  calc 2 * (num * unitsOfOne) ≤ (units rank + units (rank + 1)) * den := h.high
    _ < 2 * units r * den := Nat.mul_lt_mul_of_pos_right (by omega) hd
    _ = 2 * (units r * den) := Nat.mul_assoc _ _ _

theorem RoundsTo.gt (h : RoundsTo rank num den) (hd : 0 < den) (hr : r < rank) :
    units r * den < num * unitsOfOne := by
  have hhigh : units r < units rank := units_strictMono hr
  have hlow : units r ≤ units (rank - 1) := units_strictMono.monotone (by omega)
  refine Nat.lt_of_mul_lt_mul_left (a := 2) ?_
  calc 2 * (units r * den) = 2 * units r * den := (Nat.mul_assoc _ _ _).symm
    _ < (units (rank - 1) + units rank) * den := Nat.mul_lt_mul_of_pos_right (by omega) hd
    _ ≤ 2 * (num * unitsOfOne) := h.low

/-- The rank of the number that is nearest to one ten-thousandth. -/
def tenThousandth : Nat := 0x3F1A36E2EB1C432D

/-- One ten-thousandth lies below this number, and above the middle to the number before. -/
theorem units_tenThousandth :
    (units (tenThousandth - 1) + units tenThousandth) * 10 ^ 4 < 2 * unitsOfOne ∧
      unitsOfOne < units tenThousandth * 10 ^ 4 := by
  decide +kernel

theorem tenThousandth_le_iff : tenThousandth ≤ rank ↔ unitsOfOne ≤ units rank * 10 ^ 4 := by
  obtain ⟨hlow, hhigh⟩ := units_tenThousandth
  constructor
  · intro h
    exact hhigh.le.trans (Nat.mul_le_mul_right _ (units_strictMono.monotone h))
  · intro h
    by_contra hr
    have hle : units rank ≤ units (tenThousandth - 1) := units_strictMono.monotone (by omega)
    have hlt : units (tenThousandth - 1) < units tenThousandth :=
      units_strictMono (Nat.sub_lt (by decide) (by decide))
    omega

/-- A number that is not zero, and yet nearer to it than one ten-thousandth. -/
def IsTiny (x : Double) : Prop := ∃ q ∈ x.rational?, q ≠ 0 ∧ |q| < 1 / 10 ^ 4

theorem rational?_ofRank (hi : rank < infinityRank) (negative : Bool) :
    ∃ q, (ofRank negative rank).rational? = some q ∧ |q| = (units rank : ℚ) / unitsOfOne := by
  have hpos : (0 : ℚ) ≤ (units rank : ℚ) / unitsOfOne :=
    div_nonneg (Nat.cast_nonneg _) (Nat.cast_nonneg _)
  refine ⟨if negative then -((units rank : ℚ) / unitsOfOne) else units rank / unitsOfOne, ?_, ?_⟩
  · simp only [ofRank, rational?, Nat.min_eq_left hi.le, if_pos hi]
  · split
    · rw [abs_neg, abs_of_nonneg hpos]
    · exact abs_of_nonneg hpos

theorem ofRank_isTiny (hi : rank < infinityRank) (negative : Bool) :
    (ofRank negative rank).IsTiny ↔ 0 < rank ∧ rank < tenThousandth := by
  obtain ⟨q, hq, habs⟩ := rational?_ofRank hi negative
  have hone : (0 : ℚ) < unitsOfOne := Nat.cast_pos.mpr unitsOfOne_pos
  have hzero : q ≠ 0 ↔ 0 < rank := by
    rw [← abs_pos, habs, div_pos_iff_of_pos_right hone, Nat.cast_pos]
    exact ⟨fun h => Nat.pos_of_ne_zero fun h0 => by simp [h0, units] at h,
      fun h => (Nat.zero_le _).trans_lt (units_strictMono h)⟩
  have hlt : |q| < 1 / 10 ^ 4 ↔ rank < tenThousandth := by
    rw [← not_le (a := tenThousandth), tenThousandth_le_iff, not_le, habs,
      div_lt_div_iff₀ hone (by norm_num), one_mul]
    exact_mod_cast Iff.rfl
  simp only [IsTiny, hq, Option.mem_def, Option.some.injEq, exists_eq_left', hzero, hlt]

end Double

namespace Decimal

/-- The place of the point, counted from the first digit. -/
def Scientific.point (d : Scientific) : Int := (figures d.coefficient).length + d.exponent

variable {d : Scientific} {k : Int}

/-- A decimal is below a power of ten if its point does not stand further to the right. -/
theorem Scientific.point_le_iff (h : 0 < d.coefficient) :
    d.point ≤ k ↔ d.num * 10 ^ (-k).toNat < 10 ^ k.toNat * d.den := by
  obtain ⟨x, xs, hf, hx⟩ := figures_eq_cons h.ne'
  have hlt : d.coefficient < 10 ^ (xs.length + 1) := by
    have hlt := Numeral.ofDigits_lt (figures_lt d.coefficient)
    rwa [ofDigits_figures, hf] at hlt
  have hle : 10 ^ xs.length ≤ d.coefficient := by
    have hle := Numeral.pow_le_ofDigits hx xs
    rwa [← hf, ofDigits_figures] at hle
  have hpoint : d.point = xs.length + 1 + d.exponent := by
    rw [point, hf]
    rfl
  rw [num, den, Nat.mul_assoc, ← pow_add, ← pow_add, hpoint]
  constructor
  · intro hk
    calc d.coefficient * 10 ^ (d.exponent.toNat + (-k).toNat)
        < 10 ^ (xs.length + 1) * 10 ^ (d.exponent.toNat + (-k).toNat) :=
          Nat.mul_lt_mul_of_pos_right hlt (by positivity)
      _ = 10 ^ (xs.length + 1 + (d.exponent.toNat + (-k).toNat)) := (pow_add _ _ _).symm
      _ ≤ 10 ^ (k.toNat + (-d.exponent).toNat) := Nat.pow_le_pow_right (by decide) (by omega)
  · intro hlt
    by_contra hk
    refine Nat.not_lt.mpr ?_ hlt
    calc 10 ^ (k.toNat + (-d.exponent).toNat)
        ≤ 10 ^ (xs.length + (d.exponent.toNat + (-k).toNat)) :=
          Nat.pow_le_pow_right (by decide) (by omega)
      _ = 10 ^ xs.length * 10 ^ (d.exponent.toNat + (-k).toNat) := pow_add _ _ _
      _ ≤ d.coefficient * 10 ^ (d.exponent.toNat + (-k).toNat) := Nat.mul_le_mul_right _ hle

theorem exponent_written (d : Scientific) :
    d.written.exponent = none ↔ -4 < d.point ∧ d.point ≤ 16 := by
  unfold Scientific.written
  dsimp only
  rw [← Scientific.point]
  split
  · rename_i h
    refine iff_of_true ?_ h
    split
    · rfl
    · split <;> rfl
  · rename_i h
    exact iff_of_false nofun h

theorem point_tenThousandth : (shortest Double.tenThousandth).point = -3 := by
  decide +kernel

/-- A small number is written without an exponent from one ten-thousandth on. -/
theorem exponent_shortest (h0 : 0 < rank) (hr : units rank < 1000 * unitsOfOne) :
    (shortest rank).written.exponent = none ↔ Double.tenThousandth ≤ rank := by
  obtain ⟨thousand, ht⟩ := Double.exists_rank (n := 1000) (by decide) (by norm_num)
  rw [← ht] at hr
  have hrank : rank < thousand := Double.units_strictMono.lt_iff_lt.mp hr
  obtain ⟨hc, hround⟩ := roundsTo_shortest h0
    (hrank.trans (Double.lt_infinityRank_of_units ht (by norm_num)))
  have hden : 0 < (shortest rank).den := by
    rw [Scientific.den]
    positivity
  have hpoint : (shortest rank).point ≤ 16 := by
    refine ((Scientific.point_le_iff hc (k := 3)).mpr ?_).trans (by decide)
    have hlt := hround.lt hden hrank
    rw [ht, Nat.mul_right_comm] at hlt
    simpa using Nat.lt_of_mul_lt_mul_right hlt
  rw [exponent_written, and_iff_left hpoint, ← not_le, not_iff_comm, not_le]
  obtain ⟨hbelow, habove⟩ := Double.units_tenThousandth
  rcases lt_trichotomy rank Double.tenThousandth with hlt | rfl | hgt
  · refine iff_of_true hlt ((Scientific.point_le_iff hc).mpr ?_)
    have hfirst : units rank ≤ units (Double.tenThousandth - 1) :=
      Double.units_strictMono.monotone (by omega)
    have hsecond : units (rank + 1) ≤ units Double.tenThousandth :=
      Double.units_strictMono.monotone hlt
    refine Nat.lt_of_mul_lt_mul_right (a := 2 * unitsOfOne) ?_
    calc (shortest rank).num * 10 ^ 4 * (2 * unitsOfOne)
        = 2 * ((shortest rank).num * unitsOfOne) * 10 ^ 4 := by ring
      _ ≤ (units rank + units (rank + 1)) * (shortest rank).den * 10 ^ 4 :=
        Nat.mul_le_mul_right _ hround.high
      _ ≤ (units (Double.tenThousandth - 1) + units Double.tenThousandth) *
          (shortest rank).den * 10 ^ 4 :=
        Nat.mul_le_mul_right _ (Nat.mul_le_mul_right _ (Nat.add_le_add hfirst hsecond))
      _ = (units (Double.tenThousandth - 1) + units Double.tenThousandth) * 10 ^ 4 *
          (shortest rank).den := by ring
      _ < 2 * unitsOfOne * (shortest rank).den := Nat.mul_lt_mul_of_pos_right hbelow hden
      _ = 10 ^ 0 * (shortest rank).den * (2 * unitsOfOne) := by ring
  · refine iff_of_false (lt_irrefl _) ?_
    rw [point_tenThousandth]
    decide
  · refine iff_of_false (Nat.lt_asymm hgt) ?_
    rw [Scientific.point_le_iff hc, Nat.not_lt]
    refine Nat.le_of_mul_le_mul_right ?_ Double.unitsOfOne_pos
    calc 10 ^ 0 * (shortest rank).den * unitsOfOne = unitsOfOne * (shortest rank).den := by ring
      _ ≤ units Double.tenThousandth * 10 ^ 4 * (shortest rank).den :=
        Nat.mul_le_mul_right _ habove.le
      _ = units Double.tenThousandth * (shortest rank).den * 10 ^ 4 := by ring
      _ ≤ (shortest rank).num * unitsOfOne * 10 ^ 4 :=
        Nat.mul_le_mul_right _ (hround.gt hden hgt).le
      _ = (shortest rank).num * 10 ^ 4 * unitsOfOne := by ring

theorem figures_ofDigits (h : ∀ d ∈ ds, d < 10) (hl : ds = [0] ∨ ∃ d rest, ds = d :: rest ∧ d ≠ 0) :
    figures (ofDigits ds) = ds := by
  rcases hl with rfl | ⟨d, rest, rfl, hd⟩
  · rfl
  · have hpos : ofDigits (d :: rest) ≠ 0 :=
      (Nat.lt_of_lt_of_le (by positivity) (Numeral.pow_le_ofDigits hd rest)).ne'
    rw [figures, if_neg hpos, Numeral.ofDigits_eq, Nat.digits_ofDigits 10 (by decide)]
    · exact List.reverse_reverse _
    · intro x hx
      exact h x (List.mem_reverse.mp hx)
    · intro hne
      rwa [List.getLast_reverse, List.head_cons]

/-- What is written in front of the point is less than a natural number that the number is less
than. -/
theorem whole_lt (h0 : 0 < rank) (hn : n ≤ 2 ^ 53) (hr : units rank < n * unitsOfOne)
    (he : (shortest rank).written.exponent = none) :
    ofDigits (shortest rank).written.whole < n := by
  obtain ⟨limit, hl⟩ := Double.exists_rank (Nat.pos_of_mul_pos_right (Nat.zero_lt_of_lt hr)) hn
  rw [← hl] at hr
  have hrank : rank < limit := Double.units_strictMono.lt_iff_lt.mp hr
  obtain ⟨hc, hround⟩ := roundsTo_shortest h0
    (hrank.trans (Double.lt_infinityRank_of_units hl hn))
  have hlt := (roundsTo_written hc hround false).lt (by positivity) hrank
  have hscale : ((shortest rank).written.numeral false).scale =
      -((shortest rank).written.fraction.length : Int) := by
    rw [Written.numeral, Numeral.scale, he]
    exact zero_sub _
  rw [hscale, hl, Numeral.ofDigits_append, neg_neg, Int.toNat_neg_natCast, Int.toNat_natCast,
    pow_zero, Nat.mul_one, Nat.mul_right_comm n] at hlt
  have hsum := Nat.lt_of_mul_lt_mul_right hlt
  exact Nat.lt_of_mul_lt_mul_right ((Nat.le_add_right _ _).trans_lt hsum)

end Decimal
end Covenant
