import Covenant.Decimal.Numeral
import Covenant.Decimal.Shortest
import Mathlib.Data.Nat.Digits.Lemmas
import Mathlib.Tactic.Ring

/-! The digits of a number, and the number that they are read back as. -/

namespace Covenant

namespace Numeral

theorem ofDigits_eq (ds : List Nat) : ofDigits ds = Nat.ofDigits 10 ds.reverse := by
  rw [Nat.ofDigits_eq_foldr, List.foldr_reverse, ofDigits]
  congr 1
  funext n d
  rw [Nat.cast_id, Nat.add_comm]

theorem ofDigits_append (xs ys : List Nat) :
    ofDigits (xs ++ ys) = ofDigits xs * 10 ^ ys.length + ofDigits ys := by
  rw [ofDigits_eq, List.reverse_append, Nat.ofDigits_append, ← ofDigits_eq, ← ofDigits_eq,
    List.length_reverse]
  ring

theorem ofDigits_cons (d : Nat) (ds : List Nat) :
    ofDigits (d :: ds) = d * 10 ^ ds.length + ofDigits ds := by
  have hs : ofDigits [d] = d := by simp [ofDigits]
  rw [← List.singleton_append, ofDigits_append, hs]

theorem ofDigits_zeros (n : Nat) : ofDigits (List.replicate n 0) = 0 := by
  induction n with
  | zero => rfl
  | succ n ih => rw [List.replicate_succ, ofDigits_cons, ih, Nat.zero_mul]

theorem ofDigits_lt (h : ∀ d ∈ ds, d < 10) : ofDigits ds < 10 ^ ds.length := by
  rw [ofDigits_eq, ← List.length_reverse]
  refine Nat.ofDigits_lt_base_pow_length (by decide) fun d hd => h d ?_
  exact List.mem_reverse.mp hd

theorem pow_le_ofDigits (hd : d ≠ 0) (ds : List Nat) : 10 ^ ds.length ≤ ofDigits (d :: ds) := by
  rw [ofDigits_cons]
  have := Nat.le_mul_of_pos_left (10 ^ ds.length) (Nat.pos_of_ne_zero hd)
  omega

/-- Leading zeros do not count. -/
theorem ofDigits_dropWhile (ds : List Nat) : ofDigits (ds.dropWhile (· == 0)) = ofDigits ds := by
  induction ds with
  | nil => rfl
  | cons d ds ih =>
    by_cases hd : d = 0
    · subst hd
      rw [ofDigits_cons, Nat.zero_mul, Nat.zero_add]
      exact ih
    · rw [List.dropWhile_cons_of_neg (by simpa using hd)]

end Numeral

namespace Decimal

open Numeral (ofDigits)

/-- The digits of a number as numbers, without leading zeros. -/
def figures (n : Nat) : List Nat := if n = 0 then [0] else (Nat.digits 10 n).reverse

theorem figures_of_lt (h : n < 10) : figures n = [n] := by
  rw [figures]
  split
  · rename_i hn
    rw [hn]
  · rename_i hn
    rw [Nat.digits_of_lt 10 n hn h]
    rfl

theorem figures_of_le (h : 10 ≤ n) : figures n = figures (n / 10) ++ [n % 10] := by
  have hd := Nat.digits_def' (show 1 < 10 by decide) (show 0 < n by omega)
  rw [figures, if_neg (by omega), figures, if_neg (by omega), hd, List.reverse_cons]

theorem digitsAux_eq (h : n.log2 < fuel) (acc : List Char) :
    digitsAux fuel n acc = (figures n).map digitChar ++ acc := by
  induction fuel generalizing n acc with
  | zero => exact absurd h (Nat.not_lt_zero _)
  | succ fuel ih =>
    rw [digitsAux]
    split
    · rename_i hn
      rw [figures_of_lt hn]
      rfl
    · rename_i hn
      have hlog : (n / 10).log2 < fuel := by
        have hle : n / 10 ≤ n / 2 := Nat.div_le_div_left (by decide) (by decide)
        have hm : (n / 10).log2 ≤ (n / 2).log2 := by
          rw [Nat.le_log2 (by omega)]
          exact (Nat.log2_self_le (by omega)).trans hle
        have hs : n.log2 = (n / 2).log2 + 1 := by
          rw [Nat.log2_def, if_pos (by omega)]
        omega
      have hf := figures_of_le (Nat.le_of_not_lt hn)
      rw [ih hlog, hf, List.map_append, List.append_assoc]
      rfl

theorem digits_eq (n : Nat) : digits n = (figures n).map digitChar := by
  rw [digits, digitsAux_eq (Nat.lt_succ_self _), List.append_nil]

theorem figures_lt (n : Nat) : ∀ d ∈ figures n, d < 10 := by
  intro d hd
  rw [figures] at hd
  split at hd
  · rw [List.mem_singleton.mp hd]
    decide
  · exact Nat.digits_lt_base (by decide) (List.mem_reverse.mp hd)

theorem ofDigits_figures (n : Nat) : ofDigits (figures n) = n := by
  rw [figures]
  split
  · rename_i hn
    rw [hn]
    rfl
  · rw [Numeral.ofDigits_eq, List.reverse_reverse, Nat.ofDigits_digits]

/-- The digits of a positive number do not start with a zero. -/
theorem figures_eq_cons (h : n ≠ 0) : ∃ d ds, figures n = d :: ds ∧ d ≠ 0 := by
  have hne : Nat.digits 10 n ≠ [] := Nat.digits_ne_nil_iff_ne_zero.mpr h
  refine ⟨(Nat.digits 10 n).getLast hne, (Nat.digits 10 n).dropLast.reverse, ?_,
    Nat.getLast_digit_ne_zero 10 h⟩
  rw [figures, if_neg h]
  conv_lhs => rw [← List.dropLast_append_getLast hne]
  rw [List.reverse_append]
  rfl

/-- There is a zero in front of the others only for zero itself. -/
theorem figures_leading (n : Nat) :
    figures n = [0] ∨ ∃ d ds, figures n = d :: ds ∧ d ≠ 0 := by
  by_cases h : n = 0
  · exact .inl (by rw [h]; rfl)
  · exact .inr (figures_eq_cons h)

theorem figures_cons (n : Nat) : ∃ d ds, figures n = d :: ds := by
  rcases figures_leading n with hf | ⟨d, ds, hf, _⟩
  · exact ⟨0, [], hf⟩
  · exact ⟨d, ds, hf⟩

theorem length_figures_le (hk : 0 < k) (h : n < Nat.pow 10 k) : (figures n).length ≤ k := by
  rw [figures]
  split
  · exact hk
  · rw [List.length_reverse]
    exact (Nat.digits_length_le_iff (by decide) n).mpr h

theorem lt_length_figures (h : 10 ^ k ≤ n) : k < (figures n).length := by
  have hlt := Numeral.ofDigits_lt (figures_lt n)
  rw [ofDigits_figures] at hlt
  exact (Nat.pow_lt_pow_iff_right (by decide)).mp (h.trans_lt hlt)

section

variable {d : Nat}

theorem digitChar_toNat (h : d < 10) : (digitChar d).toNat = 48 + d := by
  revert d
  decide

theorem decimalDigit?_digitChar (h : d < 10) : decimalDigit? (digitChar d) = some d := by
  revert d
  decide

theorem isAsciiDigit_digitChar (h : d < 10) : isAsciiDigit (digitChar d) := by
  revert d
  decide

theorem digitChar_ne (h : d < 10) (hc : ¬isAsciiDigit c) : digitChar d ≠ c :=
  fun he => hc (he ▸ isAsciiDigit_digitChar h)

end

/-- A digit of the ASCII characters is a digit of a number. -/
theorem exists_digitChar (h : isAsciiDigit c) : ∃ d < 10, c = digitChar d := by
  rw [isAsciiDigit, Bool.and_eq_true, decide_eq_true_eq, decide_eq_true_eq] at h
  refine ⟨c.toNat - 48, by omega, ?_⟩
  rw [digitChar, show '0'.toNat + (c.toNat - 48) = c.toNat by
    have : '0'.toNat = 48 := rfl
    omega, Char.ofNat_toNat]

theorem exists_map_digitChar (h : ∀ c ∈ cs, isAsciiDigit c) :
    ∃ ds : List Nat, (∀ d ∈ ds, d < 10) ∧ cs = ds.map digitChar := by
  induction cs with
  | nil => exact ⟨[], by simp, rfl⟩
  | cons c cs ih =>
    obtain ⟨hc, hcs⟩ := List.forall_mem_cons.mp h
    obtain ⟨d, hd, rfl⟩ := exists_digitChar hc
    obtain ⟨ds, hds, rfl⟩ := ih hcs
    exact ⟨d :: ds, List.forall_mem_cons.mpr ⟨hd, hds⟩, rfl⟩

theorem spanDigits_map_append (h : ∀ d ∈ ds, d < 10)
    (hr : ∀ c ∈ rest.head?, decimalDigit? c = none) :
    Numeral.spanDigits (ds.map digitChar ++ rest) = (ds, rest) := by
  induction ds with
  | nil =>
    cases rest with
    | nil => rfl
    | cons c rest => simp only [List.map_nil, List.nil_append, Numeral.spanDigits, hr c rfl]
  | cons d ds ih =>
    obtain ⟨hd, h⟩ := List.forall_mem_cons.mp h
    simp only [List.map_cons, List.cons_append, Numeral.spanDigits, decimalDigit?_digitChar hd,
      ih h]

end Decimal
end Covenant
