import Covenant.JsonText.Reader
import Covenant.JsonText.Writer
import Covenant.Proofs.Decimal.ReadBack

/-! Numbers are read from JSON as they are written there. -/

namespace Covenant.JsonText

open Decimal (digitChar figures signText Written)

variable {ds : List Nat} {rest : List Char}

/-- What may stand behind a value: the end, a comma or a closing bracket. -/
def Ends (rest : List Char) : Prop := ∀ c ∈ rest.head?, c = ',' ∨ c = ']' ∨ c = '\x7d'

theorem Ends.not_digit (h : Ends rest) : ∀ c ∈ rest.head?, ¬isAsciiDigit c := by
  intro c hc
  rcases h c hc with rfl | rfl | rfl <;> decide

theorem Ends.spanFraction (h : Ends rest) : spanFraction rest = ([], rest) := by
  cases rest with
  | nil => rfl
  | cons c rest => rcases h c rfl with rfl | rfl | rfl <;> rfl

theorem Ends.spanExponent (h : Ends rest) : spanExponent rest = ([], rest) := by
  cases rest with
  | nil => rfl
  | cons c rest => rcases h c rfl with rfl | rfl | rfl <;> rfl

theorem spanAscii_digits (h : ∀ d ∈ ds, d < 10) (hr : ∀ c ∈ rest.head?, ¬isAsciiDigit c) :
    spanAscii (ds.map digitChar ++ rest) = (ds.map digitChar, rest) := by
  have hd : ∀ c ∈ ds.map digitChar, isAsciiDigit c := by
    intro c hc
    obtain ⟨d, hd, rfl⟩ := List.mem_map.mp hc
    exact Decimal.isAsciiDigit_digitChar (h d hd)
  rw [spanAscii, List.takeWhile_append_of_pos hd, List.dropWhile_append_of_pos hd]
  cases rest with
  | nil => rw [List.takeWhile_nil, List.dropWhile_nil, List.append_nil]
  | cons c rest =>
    have hc := hr c rfl
    rw [List.takeWhile_cons_of_neg hc, List.dropWhile_cons_of_neg hc, List.append_nil]

/-- Digits with no zero in front, or a zero alone. -/
theorem spanWhole_digits (h : ∀ d ∈ ds, d < 10)
    (hds : ds = [0] ∨ ∃ x xs, ds = x :: xs ∧ x ≠ 0) (hr : ∀ c ∈ rest.head?, ¬isAsciiDigit c) :
    spanWhole (ds.map digitChar ++ rest) = (ds.map digitChar, rest) := by
  rcases hds with rfl | ⟨x, xs, rfl, hx⟩
  · rfl
  · have hne : digitChar x ≠ '0' := by
      intro he
      have ht := congrArg Char.toNat he
      rw [Decimal.digitChar_toNat (h x (by simp))] at ht
      exact hx (by simpa using ht)
    have hs := spanAscii_digits h hr
    unfold spanWhole
    split
    · rename_i he
      exact absurd (List.cons.inj he).1 hne
    · exact hs

theorem spanFraction_text {w : Written} (h : ∀ d ∈ w.fraction, d < 10)
    (hr : ∀ c ∈ rest.head?, ¬isAsciiDigit c ∧ c ≠ '.') :
    spanFraction (w.fractionText ++ rest) = (w.fractionText, rest) := by
  cases hf : w.fraction with
  | nil =>
    rw [Written.fractionText, hf]
    show spanFraction rest = ([], rest)
    unfold spanFraction
    split
    · rename_i he
      exact absurd rfl (hr '.' (by simp)).2
    · rfl
  | cons x xs =>
    have hs := spanAscii_digits h fun c hc => (hr c hc).1
    rw [hf] at hs
    rw [Written.fractionText, hf, List.cons_append, spanFraction, hs]
    rfl

theorem spanExponent_text (w : Written) (hr : Ends rest) :
    spanExponent (w.exponentText ++ rest) = (w.exponentText, rest) := by
  cases he : w.exponent with
  | none =>
    rw [Written.exponentText, he]
    exact hr.spanExponent
  | some e =>
    obtain ⟨x, xs, hf⟩ := Decimal.exponentFigures_eq_cons e.natAbs
    have hlt := Decimal.exponentFigures_lt e.natAbs
    have hs := spanAscii_digits hlt hr.not_digit
    rw [hf] at hs hlt
    have hx := hlt x (by simp)
    have hplus : digitChar x ≠ '+' := Decimal.digitChar_ne hx (by decide)
    have hminus : digitChar x ≠ '-' := Decimal.digitChar_ne hx (by decide)
    obtain ⟨sign, hsign, htext⟩ : ∃ sign, (sign = '+' ∨ sign = '-') ∧
        w.exponentText = 'e' :: sign :: (x :: xs).map digitChar := by
      refine ⟨if e < 0 then '-' else '+', ?_, ?_⟩
      · split <;> simp
      · simp only [Written.exponentText, he, hf]
    have hw : ((sign :: ((x :: xs).map digitChar ++ rest)).takeWhile
        fun c => c == '+' || c == '-') = [sign] := by
      rcases hsign with rfl | rfl <;> simp [hplus, hminus]
    rw [htext, List.cons_append, List.cons_append, spanExponent, if_pos (.inl rfl), hw]
    dsimp only [List.take, List.length, List.drop]
    rw [hs]
    rfl

theorem sign_eq (h : d < 10) (negative : Bool) (tail : List Char) :
    (if (signText negative ++ digitChar d :: tail).head? = some '-' then
      (['-'], (signText negative ++ digitChar d :: tail).drop 1)
    else ([], signText negative ++ digitChar d :: tail)) =
      (signText negative, digitChar d :: tail) := by
  cases negative with
  | true => rfl
  | false =>
    have hne : digitChar d ≠ '-' := Decimal.digitChar_ne h (by decide)
    rw [if_neg (by simpa [signText] using hne)]
    rfl

theorem mem_head?_append {cs : List Char} (h : c ∈ (cs ++ rest).head?) :
    c ∈ cs.head? ∨ c ∈ rest.head? := by
  cases cs with
  | nil => exact .inr h
  | cons d cs => exact .inl h

theorem head?_fractionText (w : Written) : ∀ c ∈ w.fractionText.head?, c = '.' := by
  intro c hc
  unfold Written.fractionText at hc
  split at hc
  · cases hc
  · cases hc
    rfl

/-- A float has a point or an exponent. -/
theorem isEmpty_of_isFloat {w : Written} (h : w.IsFloat) :
    (w.fractionText.isEmpty && w.exponentText.isEmpty) = false := by
  rw [Bool.and_eq_false_iff]
  rcases h.marked with hf | he
  · left
    unfold Written.fractionText
    split
    · rename_i hn
      exact absurd hn hf
    · rfl
  · right
    obtain ⟨e, he⟩ := Option.isSome_iff_exists.mp he
    rw [Written.exponentText, he]
    rfl

/-- A float is read as the number that its parts make, with what stands behind it left over. -/
theorem readNumber_text {w : Written} (h : w.IsFloat) (negative : Bool) (hr : Ends rest) :
    readNumber (signText negative ++ (w.text ++ rest)) =
      .ok (.float (w.numeral negative).toDouble, rest) := by
  obtain ⟨hwhole, hfraction⟩ := List.forall_mem_append.mp h.digits
  obtain ⟨d, ds, hw⟩ := h.whole_eq_cons
  have hexp : ∀ c ∈ (w.exponentText ++ rest).head?, ¬isAsciiDigit c ∧ c ≠ '.' := by
    intro c hc
    rcases mem_head?_append hc with hc | hc
    · rw [Decimal.head?_exponentText w c hc]
      decide
    · rcases hr c hc with rfl | rfl | rfl <;> decide
  have hfrac : ∀ c ∈ (w.fractionText ++ (w.exponentText ++ rest)).head?, ¬isAsciiDigit c := by
    intro c hc
    rcases mem_head?_append hc with hc | hc
    · rw [head?_fractionText w c hc]
      decide
    · exact (hexp c hc).1
  have hspan := spanWhole_digits hwhole h.whole hfrac
  have hf := spanFraction_text hfraction hexp
  have he := spanExponent_text w hr
  have hread := Decimal.read?_text h negative
  rw [Written.text] at hread ⊢
  rw [List.append_assoc, List.append_assoc]
  have hsign := sign_eq (hwhole d (by simp [hw])) negative
    (ds.map digitChar ++ (w.fractionText ++ (w.exponentText ++ rest)))
  rw [hw, List.map_cons, List.cons_append] at hspan
  rw [hw, List.map_cons] at hread ⊢
  rw [readNumber, List.cons_append, hsign]
  dsimp only
  rw [hspan]
  dsimp only
  rw [hf]
  dsimp only
  rw [he]
  dsimp only
  rw [isEmpty_of_isFloat h, List.append_assoc, List.append_assoc, List.cons_append]
  rw [List.cons_append] at hread
  simp only [hread, Bool.false_eq_true, if_false]

theorem map_toNat_digits (h : ∀ d ∈ ds, d < 10) :
    (ds.map digitChar).map (fun c => c.toNat - 48) = ds := by
  rw [List.map_map, List.map_congr_left (g := id), List.map_id]
  intro d hd
  rw [Function.comp, Decimal.digitChar_toNat (h d hd), Nat.add_sub_cancel_left]
  rfl

theorem ofInt_eq (i : Int) :
    Decimal.ofInt i = signText (decide (i < 0)) ++ (figures i.natAbs).map digitChar := by
  rw [Decimal.ofInt, Decimal.digits_eq]
  by_cases hn : i < 0 <;> simp [hn, signText]

/-- The text of an integer is a digit with more behind it, and a sign perhaps in front. -/
theorem ofInt?_eq_ok (h : Decimal.ofInt? i = .ok cs) :
    ∃ negative d tail, d < 10 ∧ cs = signText negative ++ digitChar d :: tail := by
  rw [Decimal.ofInt?] at h
  split at h
  · cases h
    have hlt := Decimal.figures_lt i.natAbs
    obtain ⟨d, ds, hf⟩ := Decimal.figures_cons i.natAbs
    exact ⟨_, d, ds.map digitChar, hlt d (by simp [hf]), by rw [ofInt_eq, hf]; rfl⟩
  · cases h

/-- An integer is read as it is written, if it can be written at all. -/
theorem readNumber_ofInt (h : Decimal.ofInt? i = .ok cs) (hr : Ends rest) :
    readNumber (cs ++ rest) = .ok (.int i, rest) := by
  rw [Decimal.ofInt?] at h
  split at h
  · rename_i hi
    cases h
    have htext := ofInt_eq i
    have hlength := Decimal.length_figures_le (by decide) hi
    have hlt := Decimal.figures_lt i.natAbs
    have hvalue := Decimal.ofDigits_figures i.natAbs
    have hspan := spanWhole_digits hlt (Decimal.figures_leading i.natAbs) hr.not_digit
    have hmap := map_toNat_digits hlt
    obtain ⟨d, ds, hf⟩ := Decimal.figures_cons i.natAbs
    have hsign := sign_eq (hlt d (by simp [hf])) (decide (i < 0)) (ds.map digitChar ++ rest)
    rw [hf] at hspan hlength hvalue hmap
    rw [List.map_cons] at hspan hmap
    rw [htext, hf, readNumber, List.map_cons, List.append_assoc, List.cons_append, hsign]
    dsimp only
    rw [← List.cons_append, hspan]
    dsimp only
    rw [hr.spanFraction]
    dsimp only
    rw [hr.spanExponent]
    dsimp only
    rw [hmap, hvalue, List.length_cons, List.length_map, ← List.length_cons,
      if_neg (Nat.not_lt.mpr hlength)]
    by_cases hn : i < 0
    · rw [decide_eq_true hn, show i = -(i.natAbs : Int) by omega, Int.natAbs_neg,
        Int.natAbs_natCast]
      rfl
    · rw [decide_eq_false hn, show i = (i.natAbs : Int) by omega, Int.natAbs_natCast]
      rfl
  · cases h

end Covenant.JsonText
