import Covenant.Proofs.Decimal.Shortest
import Covenant.Proofs.Decimal.ToDouble

/-! How a binary64 number is written. -/

namespace Covenant.Decimal

open Double (RoundsTo)
open Numeral (ofDigits)

/-- A number as it is written: its digits around the point, and its exponent if it has one. -/
structure Written where
  whole : List Nat
  fraction : List Nat
  exponent : Option Int

/-- The digits of an exponent, two at least. -/
def exponentFigures (n : Nat) : List Nat :=
  List.replicate (2 - (figures n).length) 0 ++ figures n

namespace Written

def fractionText (w : Written) : List Char :=
  match w.fraction with
  | [] => []
  | ds => '.' :: ds.map digitChar

def exponentText (w : Written) : List Char :=
  match w.exponent with
  | none => []
  | some e => 'e' :: (if e < 0 then '-' else '+') :: (exponentFigures e.natAbs).map digitChar

def text (w : Written) : List Char :=
  w.whole.map digitChar ++ (w.fractionText ++ w.exponentText)

def numeral (w : Written) (negative : Bool) : Numeral :=
  ⟨negative, w.whole, w.fraction, w.exponent.getD 0⟩

theorem text_of_fraction {w : Written} (hf : w.fraction ≠ []) (he : w.exponent = none) :
    w.text = w.whole.map digitChar ++ '.' :: w.fraction.map digitChar := by
  have hft : w.fractionText = '.' :: w.fraction.map digitChar := by
    unfold fractionText
    split
    · rename_i h
      exact absurd h hf
    · rfl
  rw [text, hft, exponentText, he, List.append_nil]

/-- The number is written without needless zeros in front, and not as an integer. -/
structure IsFloat (w : Written) : Prop where
  digits : ∀ d ∈ w.whole ++ w.fraction, d < 10
  whole : w.whole = [0] ∨ ∃ d ds, w.whole = d :: ds ∧ d ≠ 0
  marked : w.fraction ≠ [] ∨ w.exponent.isSome

theorem IsFloat.whole_eq_cons {w : Written} (h : w.IsFloat) : ∃ d ds, w.whole = d :: ds := by
  rcases h.whole with hw | ⟨d, ds, hw, _⟩
  · exact ⟨0, [], hw⟩
  · exact ⟨d, ds, hw⟩

/-- A number starts with a digit. -/
theorem IsFloat.text_eq_cons {w : Written} (h : w.IsFloat) :
    ∃ d tail, d < 10 ∧ w.text = digitChar d :: tail := by
  obtain ⟨d, ds, hw⟩ := h.whole_eq_cons
  refine ⟨d, ds.map digitChar ++ (w.fractionText ++ w.exponentText), h.digits d (by simp [hw]), ?_⟩
  rw [text, hw]
  rfl

end Written

/-- How the shortest decimal of a number is written. -/
def Scientific.written (d : Scientific) : Written :=
  let ds := figures d.coefficient
  let point : Int := ds.length + d.exponent
  if -4 < point ∧ point ≤ 16 then
    if point ≤ 0 then ⟨[0], List.replicate (-point).toNat 0 ++ ds, none⟩
    else if 0 ≤ d.exponent then ⟨ds ++ List.replicate d.exponent.toNat 0, [0], none⟩
    else ⟨ds.take point.toNat, ds.drop point.toNat, none⟩
  else ⟨ds.take 1, ds.drop 1, some (point - 1)⟩

theorem pad_figures (n : Nat) :
    pad 2 ((figures n).map digitChar) = (exponentFigures n).map digitChar := by
  rw [pad, exponentFigures, List.map_append, List.map_replicate, List.length_map]
  rfl

section

variable {d : Scientific}

theorem layout_eq (h : 0 < d.coefficient) : layout d = d.written.text := by
  obtain ⟨x, xs, hf, _⟩ := figures_eq_cons h.ne'
  unfold layout Scientific.written
  simp only [digits_eq, List.length_map]
  split
  · split
    · rw [Written.text_of_fraction (by simp [hf]) rfl, List.map_append, List.map_replicate]
      rfl
    · split
      · rw [Written.text_of_fraction (List.cons_ne_nil _ _) rfl, List.map_append,
          List.map_replicate]
        rfl
      · have hdrop : (figures d.coefficient).drop
            ((figures d.coefficient).length + d.exponent : Int).toNat ≠ [] := by
          rw [ne_eq, List.drop_eq_nil_iff]
          omega
        rw [Written.text_of_fraction hdrop rfl, List.map_take, List.map_drop]
  · rw [hf, pad_figures]
    cases xs with
    | nil => rfl
    | cons y ys => rfl

/-- The digits stand behind zeros, or before zeros, or are broken by the point. -/
theorem written_cases (h : 0 < d.coefficient) :
    (∃ zeros : Nat, d.exponent = -(zeros + (figures d.coefficient).length : Int) ∧
        d.written = ⟨[0], List.replicate zeros 0 ++ figures d.coefficient, none⟩) ∨
      (0 ≤ d.exponent ∧
        d.written = ⟨figures d.coefficient ++ List.replicate d.exponent.toNat 0, [0], none⟩) ∨
      ∃ (k : Nat) (e : Option Int), 0 < k ∧ (k < (figures d.coefficient).length ∨ e.isSome) ∧
        d.exponent = e.getD 0 - ((figures d.coefficient).length - k : Nat) ∧
        d.written = ⟨(figures d.coefficient).take k, (figures d.coefficient).drop k, e⟩ := by
  obtain ⟨x, xs, hf, _⟩ := figures_eq_cons h.ne'
  have hlen : 0 < (figures d.coefficient).length := by simp [hf]
  unfold Scientific.written
  dsimp only
  generalize figures d.coefficient = ds at *
  split
  · split
    · exact .inl ⟨(-(ds.length + d.exponent : Int)).toNat, by omega, rfl⟩
    · split
      · exact .inr (.inl ⟨by assumption, rfl⟩)
      · refine .inr (.inr ⟨(ds.length + d.exponent : Int).toNat, none, ?_, .inl ?_, ?_, rfl⟩)
        · omega
        · omega
        · rw [Option.getD_none]
          omega
  · refine .inr (.inr ⟨1, some (ds.length + d.exponent - 1), Nat.one_pos, .inr rfl, ?_, rfl⟩)
    rw [Option.getD_some]
    omega

theorem isFloat_written (h : 0 < d.coefficient) : d.written.IsFloat := by
  have hlt := figures_lt d.coefficient
  obtain ⟨x, xs, hf, hx⟩ := figures_eq_cons h.ne'
  rcases written_cases h with ⟨zeros, _, hw⟩ | ⟨_, hw⟩ | ⟨k, e, hk, hm, _, hw⟩
  · rw [hw]
    refine ⟨fun y hy => ?_, .inl rfl, .inl (by simp [hf])⟩
    simp only [List.cons_append, List.nil_append, List.mem_cons, List.mem_append,
      List.mem_replicate] at hy
    rcases hy with rfl | ⟨_, rfl⟩ | hy
    · decide
    · decide
    · exact hlt y hy
  · rw [hw]
    refine ⟨fun y hy => ?_, .inr ⟨x, _, by rw [hf]; rfl, hx⟩, .inl (by simp)⟩
    simp only [List.mem_append, List.mem_replicate, List.mem_singleton] at hy
    rcases hy with (hy | ⟨_, rfl⟩) | rfl
    · exact hlt y hy
    · decide
    · decide
  · rw [hw]
    obtain ⟨k, rfl⟩ := Nat.exists_eq_add_one_of_ne_zero hk.ne'
    refine ⟨fun y hy => ?_, .inr ⟨x, xs.take k, by rw [hf]; rfl, hx⟩, ?_⟩
    · rw [List.take_append_drop] at hy
      exact hlt y hy
    · refine hm.imp (fun hk => ?_) id
      rw [ne_eq, List.drop_eq_nil_iff]
      omega

/-- The digits that are written are those of the coefficient, or zeros stand behind them up to one
place behind the point. -/
theorem written_value (h : 0 < d.coefficient) (negative : Bool) :
    (ofDigits (d.written.whole ++ d.written.fraction) = d.coefficient ∧
        (d.written.numeral negative).scale = d.exponent) ∨
      0 ≤ d.exponent ∧
        ofDigits (d.written.whole ++ d.written.fraction) =
          d.coefficient * 10 ^ (d.exponent.toNat + 1) ∧
        (d.written.numeral negative).scale = -1 := by
  have hc := ofDigits_figures d.coefficient
  unfold Written.numeral Numeral.scale
  rcases written_cases h with ⟨zeros, he, hw⟩ | ⟨he, hw⟩ | ⟨k, e, _, _, he, hw⟩
  · rw [hw]
    refine .inl ⟨?_, ?_⟩
    · show ofDigits (0 :: (List.replicate zeros 0 ++ figures d.coefficient)) = _
      rw [Numeral.ofDigits_cons, Numeral.ofDigits_append, Numeral.ofDigits_zeros, hc,
        Nat.zero_mul, Nat.zero_mul, Nat.zero_add, Nat.zero_add]
    · rw [List.length_append, List.length_replicate, he]
      show 0 - ((zeros + (figures d.coefficient).length : Nat) : Int) = _
      omega
  · rw [hw]
    refine .inr ⟨he, ?_, rfl⟩
    show ofDigits (figures d.coefficient ++ List.replicate d.exponent.toNat 0 ++ [0]) = _
    rw [Numeral.ofDigits_append, Numeral.ofDigits_append, Numeral.ofDigits_zeros, hc,
      List.length_replicate, List.length_singleton, Nat.add_zero, pow_one, pow_succ,
      ← Nat.mul_assoc]
    rfl
  · rw [hw]
    refine .inl ⟨by rw [List.take_append_drop, hc], ?_⟩
    rw [List.length_drop]
    exact he.symm

/-- However it is written, the number is that decimal. -/
theorem roundsTo_written (h : 0 < d.coefficient) (hr : RoundsTo rank d.num d.den)
    (negative : Bool) :
    RoundsTo rank
      (ofDigits (d.written.whole ++ d.written.fraction) *
        10 ^ (d.written.numeral negative).scale.toNat)
      (10 ^ (-(d.written.numeral negative).scale).toNat) := by
  rcases written_value h negative with ⟨hv, hs⟩ | ⟨he, hv, hs⟩
  · rw [hv, hs]
    exact hr
  · refine hr.congr (by rw [Scientific.den]; positivity) (by positivity) ?_
    have htenth : (- -1 : Int).toNat = 1 ∧ (-1 : Int).toNat = 0 := ⟨rfl, rfl⟩
    rw [hv, hs, Scientific.num, Scientific.den, show (-d.exponent).toNat = 0 by omega, htenth.1,
      htenth.2, pow_succ]
    ring

theorem toDouble_written (h : 0 < d.coefficient) (hr : RoundsTo rank d.num d.den) (h0 : 0 < rank)
    (hi : rank < infinityRank) (negative : Bool) :
    (d.written.numeral negative).toDouble = .ofRank negative rank := by
  refine Numeral.toDouble_eq (isFloat_written h).digits ?_ h0 hi (roundsTo_written h hr negative)
  show 0 < ofDigits (d.written.whole ++ d.written.fraction)
  rcases written_value h negative with ⟨hv, _⟩ | ⟨_, hv, _⟩
  · rw [hv]
    exact h
  · rw [hv]
    positivity

end

def signText (negative : Bool) : List Char := if negative then ['-'] else []

/-- The text of a finite number is that of a float that is read as the number. -/
theorem ofDouble_eq (h : x.isFinite) : ∃ negative w, Written.IsFloat w ∧
    ofDouble x = signText negative ++ w.text ∧ (w.numeral negative).toDouble = x := by
  cases x with
  | nan => cases h
  | number negative rank =>
    have hi : rank.val < infinityRank := of_decide_eq_true h
    have hrank : Double.ofRank negative rank.val = .number negative rank := by
      rw [Double.ofRank]
      congr 2
      exact Nat.min_eq_left hi.le
    have hsign (body : List Char) :
        (if negative then '-' :: body else body) = signText negative ++ body := by
      cases negative <;> rfl
    by_cases h0 : rank.val = 0
    · refine ⟨negative, ⟨[0], [0], none⟩, ⟨by decide, .inl rfl, .inl (by decide)⟩, ?_, ?_⟩
      · rw [ofDouble, if_neg (Nat.not_le.mpr hi), if_pos h0, hsign]
        rfl
      · rw [← hrank, h0]
        rfl
    · obtain ⟨hc, hr⟩ := roundsTo_shortest (Nat.pos_of_ne_zero h0) hi
      refine ⟨negative, (shortest rank).written, isFloat_written hc, ?_, ?_⟩
      · rw [ofDouble, if_neg (Nat.not_le.mpr hi), if_neg h0, hsign, layout_eq hc]
      · rw [toDouble_written hc hr (Nat.pos_of_ne_zero h0) hi, hrank]

end Covenant.Decimal
