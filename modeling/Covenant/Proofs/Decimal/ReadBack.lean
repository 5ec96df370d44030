import Covenant.Proofs.Decimal.Written

/-! The text of a binary64 number is read back as the number. -/

namespace Covenant.Decimal

open Numeral (ofDigits)

theorem exponentFigures_lt (n : Nat) : ∀ d ∈ exponentFigures n, d < 10 := by
  intro d hd
  rcases List.mem_append.mp hd with hd | hd
  · rw [List.eq_of_mem_replicate hd]
    decide
  · exact figures_lt n d hd

theorem ofDigits_exponentFigures (n : Nat) : ofDigits (exponentFigures n) = n := by
  rw [exponentFigures, Numeral.ofDigits_append, Numeral.ofDigits_zeros, ofDigits_figures,
    Nat.zero_mul, Nat.zero_add]

theorem exponentFigures_eq_cons (n : Nat) : ∃ d ds, exponentFigures n = d :: ds := by
  refine List.exists_cons_of_ne_nil fun hn => ?_
  obtain ⟨d, ds, hd⟩ := figures_cons n
  have hf := (List.append_eq_nil_iff.mp hn).2
  rw [hd] at hf
  cases hf

theorem spanSign_signText (h : d < 10) (negative : Bool) (rest : List Char) :
    Numeral.spanSign (signText negative ++ digitChar d :: rest) =
      (negative, digitChar d :: rest) := by
  cases negative with
  | true => rfl
  | false =>
    have hminus : digitChar d ≠ '-' := digitChar_ne h (by decide)
    have hplus : digitChar d ≠ '+' := digitChar_ne h (by decide)
    simp [Numeral.spanSign, signText, hminus, hplus]

theorem readExponent?_exponentText (w : Written) :
    Numeral.readExponent? w.exponentText = some (w.exponent.getD 0) := by
  cases he : w.exponent with
  | none =>
    rw [Written.exponentText, he]
    rfl
  | some e =>
    have hspan : Numeral.spanDigits ((exponentFigures e.natAbs).map digitChar ++ []) =
        (exponentFigures e.natAbs, []) :=
      spanDigits_map_append (exponentFigures_lt e.natAbs) (by simp)
    obtain ⟨d, ds, hd⟩ := exponentFigures_eq_cons e.natAbs
    have hvalue := ofDigits_exponentFigures e.natAbs
    rw [List.append_nil] at hspan
    rw [hd] at hspan hvalue
    by_cases hs : e < 0
    · simp only [Written.exponentText, he, if_pos hs, Numeral.readExponent?, true_or, if_true,
        Numeral.spanSign, hd, hspan, hvalue, Option.getD_some]
      congr 1
      omega
    · simp only [Written.exponentText, he, if_neg hs, Numeral.readExponent?, true_or, if_true,
        Numeral.spanSign, hd, hspan, hvalue, Option.getD_some]
      congr 1
      simp only [Bool.false_eq_true, if_false]
      omega

theorem head?_exponentText (w : Written) : ∀ c ∈ w.exponentText.head?, c = 'e' := by
  intro c hc
  unfold Written.exponentText at hc
  split at hc
  · cases hc
  · cases hc
    rfl

/-- A float that is written is read part by part. -/
theorem read?_text {w : Written} (h : w.IsFloat) (negative : Bool) :
    Numeral.read? (signText negative ++ w.text) = some (w.numeral negative) := by
  obtain ⟨d, ds, hw⟩ := h.whole_eq_cons
  obtain ⟨hwhole, hfraction⟩ := List.forall_mem_append.mp h.digits
  have hexp : ∀ c ∈ w.exponentText.head?, decimalDigit? c = none := by
    intro c hc
    rw [head?_exponentText w c hc]
    decide
  have hsign : Numeral.spanSign (signText negative ++ w.text) = (negative, w.text) := by
    rw [Written.text, hw]
    exact spanSign_signText (hwhole d (by simp [hw])) negative _
  have hread := readExponent?_exponentText w
  cases hf : w.fraction with
  | nil =>
    have htext : w.text = w.whole.map digitChar ++ w.exponentText := by
      rw [Written.text, Written.fractionText, hf, List.nil_append]
    have hspan := spanDigits_map_append hwhole hexp
    rw [← htext, hw] at hspan
    have hhead := head?_exponentText w
    rw [Written.numeral, hw, hf, Numeral.read?]
    simp only [hsign, hspan]
    cases he : w.exponentText with
    | nil =>
      rw [he] at hread
      simp only [hread]
      rfl
    | cons c rest =>
      rw [he] at hread hhead
      obtain rfl := hhead c rfl
      change (Numeral.readExponent? ('e' :: rest) >>= fun e =>
        pure (⟨negative, d :: ds, [], e⟩ : Numeral)) = _
      rw [hread]
      rfl
  | cons x xs =>
    have htext : w.text =
        w.whole.map digitChar ++ '.' :: (w.fraction.map digitChar ++ w.exponentText) := by
      rw [Written.text, Written.fractionText, hf, List.cons_append]
    have hpoint : decimalDigit? '.' = none := by decide
    have hspan := @spanDigits_map_append _ ('.' :: (w.fraction.map digitChar ++ w.exponentText))
      hwhole (by simpa using hpoint)
    have hrest := spanDigits_map_append hfraction hexp
    rw [← htext, hw] at hspan
    rw [Written.numeral, hw, Numeral.read?]
    simp only [hsign, hspan, hrest, hread]
    rfl

end Covenant.Decimal
