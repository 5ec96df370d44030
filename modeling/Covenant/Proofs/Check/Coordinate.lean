import Covenant.Check.Geo
import Covenant.Proofs.Check.Uuid
import Covenant.Proofs.Decimal.Natural
import Covenant.Proofs.Decimal.Point
import Covenant.Proofs.Decimal.ReadBack
import Covenant.Proofs.Decimal.Script

/-! Coordinates are read back from the text they are written in, unless they are tiny. -/

namespace Covenant.Check.Geo

open Decimal (digitChar figures signText)
open Double (units unitsOfOne ofRank)
open Numeral (ofDigits)

/-- The number that digits stand for. -/
def valueOf (cs : List Char) : Nat := ofDigits (cs.filterMap decimalDigit?)

/-- What the ranges of the degrees have in common: the natural numbers up to the last are written
in digits, and a fraction follows all but the last, or it is zero. -/
structure IsDegrees (inRange : List Char → List Char → Bool) (last : Nat) : Prop where
  pos : 0 < last
  small : last < 1000
  digits : ∀ {whole fraction}, inRange whole fraction → whole ≠ [] ∧ ∀ c ∈ whole, isDecimal c
  le : ∀ {whole fraction}, inRange whole fraction →
    valueOf whole < last ∨ valueOf whole = last ∧ isZeros fraction
  whole : ∀ n ≤ last, inRange (Decimal.digits n) []
  before : ∀ n < last, ∀ fraction, inRange (Decimal.digits n) fraction

theorem exists_digit (h : isDecimal c) : ∃ d < 10, decimalDigit? c = some d := by
  obtain ⟨d, hd⟩ := Option.isSome_iff_exists.mp h
  exact ⟨d, Uuid.decimalDigit?_lt hd, hd⟩

theorem valueOf_cons (h : decimalDigit? c = some d) (hcs : ∀ c ∈ cs, isDecimal c) :
    valueOf (c :: cs) = d * 10 ^ cs.length + valueOf cs := by
  rw [valueOf, List.filterMap_cons_some h, Numeral.ofDigits_cons, length_filterMap_decimal hcs,
    valueOf]

theorem valueOf_one (h : decimalDigit? a = some x) : valueOf [a] = x := by
  rw [valueOf_cons h (by simp)]
  simp [valueOf, ofDigits]

theorem valueOf_two (ha : decimalDigit? a = some x) (hb : decimalDigit? b = some y) :
    valueOf [a, b] = 10 * x + y := by
  rw [valueOf_cons ha (by simp [isDecimal, hb]), valueOf_one hb, List.length_singleton]
  ring

theorem valueOf_three (ha : decimalDigit? a = some x) (hb : decimalDigit? b = some y)
    (hc : decimalDigit? c = some z) : valueOf [a, b, c] = 100 * x + (10 * y + z) := by
  rw [valueOf_cons ha (by simp [isDecimal, hb, hc]), valueOf_two hb hc]
  simp only [List.length_cons, List.length_nil]
  ring

theorem digit_between (hl : 48 ≤ low.toNat) (hh : high.toNat ≤ 57) (h : between low high c) :
    decimalDigit? c = some (c.toNat - 48) ∧ low.toNat ≤ c.toNat ∧ c.toNat ≤ high.toNat := by
  rw [between, Bool.and_eq_true, decide_eq_true_eq, decide_eq_true_eq] at h
  have hc : low.toNat ≤ c.toNat ∧ c.toNat ≤ high.toNat := h
  refine ⟨?_, hc⟩
  rw [decimalDigit?]
  dsimp only
  rw [if_pos (by omega), if_pos (by omega)]

theorem isLatitude_cases (h : isLatitude whole fraction) :
    (∃ a, whole = [a] ∧ isDecimal a) ∨
      (∃ a b, whole = [a, b] ∧ between '1' '8' a ∧ isDecimal b) ∨
      whole = ['9', '0'] ∧ isZeros fraction := by
  unfold isLatitude at h
  split at h
  · exact .inl ⟨_, rfl, h⟩
  · rw [Bool.or_eq_true, Bool.and_eq_true, Bool.and_eq_true, Bool.and_eq_true, beq_iff_eq,
      beq_iff_eq] at h
    rcases h with ⟨ha, hb⟩ | ⟨⟨rfl, rfl⟩, hz⟩
    · exact .inr (.inl ⟨_, _, rfl, ha, hb⟩)
    · exact .inr (.inr ⟨rfl, hz⟩)
  · cases h

theorem isDegrees_latitude : IsDegrees isLatitude 90 where
  pos := by decide
  small := by decide
  digits h := by
    rcases isLatitude_cases h with ⟨a, rfl, ha⟩ | ⟨a, b, rfl, ha, hb⟩ | ⟨rfl, _⟩
    · exact ⟨List.cons_ne_nil _ _, by simpa using ha⟩
    · obtain ⟨hd, _⟩ := digit_between (by decide) (by decide) ha
      exact ⟨List.cons_ne_nil _ _, by simpa [isDecimal, hd] using hb⟩
    · exact ⟨List.cons_ne_nil _ _,
        List.forall_mem_cons.mpr ⟨rfl, List.forall_mem_singleton.mpr rfl⟩⟩
  le h := by
    rcases isLatitude_cases h with ⟨a, rfl, ha⟩ | ⟨a, b, rfl, ha, hb⟩ | ⟨rfl, hz⟩
    · obtain ⟨x, hx, hd⟩ := exists_digit ha
      rw [valueOf_one hd]
      omega
    · obtain ⟨hd, _, hle⟩ := digit_between (by decide) (by decide) ha
      obtain ⟨y, hy, hdb⟩ := exists_digit hb
      have h8 : '8'.toNat = 56 := rfl
      rw [valueOf_two hd hdb]
      omega
    · exact .inr ⟨rfl, hz⟩
  whole := by decide +kernel
  before n hn fraction := by
    have hone : ∀ n < 90, isLatitude (Decimal.digits n) ['1'] := by decide +kernel
    rcases isLatitude_cases (hone n hn) with ⟨a, ha, hd⟩ | ⟨a, b, hab, ha, hb⟩ | ⟨_, hz⟩
    · rw [ha]
      exact hd
    · rw [hab, isLatitude, ha, hb]
      rfl
    · cases hz

theorem isLongitude_cases (h : isLongitude whole fraction) :
    (∃ a, whole = [a] ∧ isDecimal a) ∨
      (∃ a b, whole = [a, b] ∧ between '1' '9' a ∧ isDecimal b) ∨
      (∃ b c, whole = ['1', b, c] ∧ between '0' '7' b ∧ isDecimal c) ∨
      whole = ['1', '8', '0'] ∧ isZeros fraction := by
  unfold isLongitude at h
  split at h
  · exact .inl ⟨_, rfl, h⟩
  · rw [Bool.and_eq_true] at h
    exact .inr (.inl ⟨_, _, rfl, h⟩)
  · rw [Bool.and_eq_true, Bool.or_eq_true, Bool.and_eq_true, Bool.and_eq_true, Bool.and_eq_true,
      beq_iff_eq, beq_iff_eq, beq_iff_eq] at h
    obtain ⟨rfl, ⟨hb, hc⟩ | ⟨⟨rfl, rfl⟩, hz⟩⟩ := h
    · exact .inr (.inr (.inl ⟨_, _, rfl, hb, hc⟩))
    · exact .inr (.inr (.inr ⟨rfl, hz⟩))
  · cases h

theorem isDegrees_longitude : IsDegrees isLongitude 180 where
  pos := by decide
  small := by decide
  digits h := by
    have hone : isDecimal '1' := rfl
    rcases isLongitude_cases h with ⟨a, rfl, ha⟩ | ⟨a, b, rfl, ha, hb⟩ | ⟨b, c, rfl, hb, hc⟩ |
      ⟨rfl, _⟩
    · exact ⟨List.cons_ne_nil _ _, by simpa using ha⟩
    · obtain ⟨hd, _⟩ := digit_between (by decide) (by decide) ha
      exact ⟨List.cons_ne_nil _ _, by simpa [isDecimal, hd] using hb⟩
    · obtain ⟨hd, _⟩ := digit_between (by decide) (by decide) hb
      have hb : isDecimal b := by simp [isDecimal, hd]
      exact ⟨List.cons_ne_nil _ _, by simp [hone, hb, hc]⟩
    · have height : isDecimal '8' := rfl
      have hzero : isDecimal '0' := rfl
      exact ⟨List.cons_ne_nil _ _, by simp [hone, height, hzero]⟩
  le h := by
    have hone : decimalDigit? '1' = some 1 := rfl
    have h7 : '7'.toNat = 55 := rfl
    have h9 : '9'.toNat = 57 := rfl
    rcases isLongitude_cases h with ⟨a, rfl, ha⟩ | ⟨a, b, rfl, ha, hb⟩ | ⟨b, c, rfl, hb, hc⟩ |
      ⟨rfl, hz⟩
    · obtain ⟨x, hx, hd⟩ := exists_digit ha
      rw [valueOf_one hd]
      omega
    · obtain ⟨hd, _, hle⟩ := digit_between (by decide) (by decide) ha
      obtain ⟨y, hy, hdb⟩ := exists_digit hb
      rw [valueOf_two hd hdb]
      omega
    · obtain ⟨hd, _, hle⟩ := digit_between (by decide) (by decide) hb
      obtain ⟨z, hz, hdc⟩ := exists_digit hc
      rw [valueOf_three hone hd hdc]
      omega
    · exact .inr ⟨rfl, hz⟩
  whole := by decide +kernel
  before n hn fraction := by
    have hone : ∀ n < 180, isLongitude (Decimal.digits n) ['1'] := by decide +kernel
    rcases isLongitude_cases (hone n hn) with ⟨a, ha, hd⟩ | ⟨a, b, hab, ha, hb⟩ |
      ⟨b, c, hbc, hb, hc⟩ | ⟨_, hz⟩
    · rw [ha]
      exact hd
    · rw [hab, isLongitude, ha, hb]
      rfl
    · rw [hbc, isLongitude, hb, hc]
      rfl
    · cases hz

section Split

theorem splitFraction?_of_no_point (h : '.' ∉ cs) : splitFraction? cs = some (cs, []) := by
  have hd : cs.dropWhile (· != '.') = [] := by
    rw [List.dropWhile_eq_nil_iff]
    intro c hc
    exact bne_iff_ne.mpr fun he => h (he ▸ hc)
  rw [splitFraction?, hd]

theorem splitFraction?_point (h : '.' ∉ whole) (fraction : List Char) :
    splitFraction? (whole ++ '.' :: fraction) =
      if !fraction.isEmpty && fraction.all isDecimal then some (whole, fraction) else none := by
  have hw : ∀ c ∈ whole, (c != '.') = true := fun c hc =>
    bne_iff_ne.mpr fun he => h (he ▸ hc)
  have hd : (whole ++ '.' :: fraction).dropWhile (· != '.') = '.' :: fraction := by
    rw [List.dropWhile_append_of_pos hw]
    rfl
  have ht : (whole ++ '.' :: fraction).takeWhile (· != '.') = whole := by
    rw [List.takeWhile_append_of_pos hw]
    exact List.append_nil whole
  rw [splitFraction?, hd, ht]

/-- A text is its whole part, with the fraction behind a point if there is one. -/
theorem splitFraction?_eq_some (h : splitFraction? cs = some (whole, fraction)) :
    cs = whole ∧ fraction = [] ∨
      cs = whole ++ '.' :: fraction ∧ fraction ≠ [] ∧ ∀ c ∈ fraction, isDecimal c := by
  unfold splitFraction? at h
  split at h
  · cases h
    exact .inl ⟨rfl, rfl⟩
  · rename_i c rest hd
    rw [Option.ite_none_right_eq_some, Bool.and_eq_true, Bool.not_eq_true',
      List.isEmpty_eq_false_iff, List.all_eq_true] at h
    obtain ⟨hrest, he⟩ := h
    cases he
    have hc : c = '.' := by
      have hnot := List.head?_dropWhile_not (· != '.') cs
      rw [hd] at hnot
      simpa using hnot
    subst hc
    refine .inr ⟨?_, hrest⟩
    rw [← hd, List.takeWhile_append_dropWhile]

end Split

section Read

theorem spanSign_eq (cs : List Char) :
    Numeral.spanSign cs = ((Numeral.spanSign cs).1, unsigned cs) := by
  unfold Numeral.spanSign
  split
  · rfl
  · rfl
  · rename_i hminus hplus
    have hself : unsigned cs = cs := by
      unfold unsigned
      split
      · exact absurd rfl (hminus _)
      · exact absurd rfl (hplus _)
      · rfl
    rw [hself]

/-- Digits with an optional fraction are read without an exponent. -/
theorem read?_unsigned (h : splitFraction? (unsigned cs) = some (whole, fraction))
    (hne : whole ≠ []) (hw : ∀ c ∈ whole, isDecimal c) : Numeral.read? cs =
      some ⟨(Numeral.spanSign cs).1, whole.filterMap decimalDigit?,
        fraction.filterMap decimalDigit?, 0⟩ := by
  obtain ⟨c, rest, rfl⟩ := List.exists_cons_of_ne_nil hne
  obtain ⟨d, _, hd⟩ := exists_digit (hw c (by simp))
  have hcons := List.filterMap_cons_some (f := decimalDigit?) (l := rest) hd
  rw [Numeral.read?, spanSign_eq cs]
  rcases splitFraction?_eq_some h with ⟨hu, rfl⟩ | ⟨hu, _, hf⟩
  · have hend : ∀ c ∈ ([] : List Char).head?, ¬isDecimal c := by simp
    have hspan := Numeral.spanDigits_append hw hend
    rw [List.append_nil, hcons] at hspan
    rw [hu, hcons]
    simp only [hspan]
    rfl
  · have hpoint : ¬isDecimal '.' := by decide
    have hbehind : ∀ c ∈ ('.' :: fraction).head?, ¬isDecimal c := by simpa using hpoint
    have hend : ∀ c ∈ ([] : List Char).head?, ¬isDecimal c := by simp
    have hspan := Numeral.spanDigits_append hw hbehind
    have hrest := Numeral.spanDigits_append hf hend
    rw [hcons] at hspan
    rw [List.append_nil] at hrest
    rw [hu, hcons]
    simp only [hspan, hrest]
    rfl

theorem valueOf_lt (h : ∀ c ∈ cs, isDecimal c) : valueOf cs < 10 ^ cs.length := by
  have hlt : ∀ d ∈ cs.filterMap decimalDigit?, d < 10 := by
    intro d hd
    obtain ⟨c, _, hc⟩ := List.mem_filterMap.mp hd
    exact Uuid.decimalDigit?_lt hc
  have hv := Numeral.ofDigits_lt hlt
  rwa [length_filterMap_decimal h] at hv

theorem valueOf_zeros (h : isZeros cs) : valueOf cs = 0 := by
  have hz : ∀ c ∈ cs, c = '0' := by simpa [isZeros] using h
  have hzero : decimalDigit? '0' = some 0 := rfl
  have hcs : cs.filterMap decimalDigit? = List.replicate cs.length 0 := by
    rw [List.eq_replicate_of_mem hz, List.filterMap_replicate_of_some hzero, List.length_replicate]
  rw [valueOf, hcs, Numeral.ofDigits_zeros]

variable {inRange : List Char → List Char → Bool} {last : Nat}

theorem coordinate?_of_split (h : splitFraction? (unsigned cs) = some (whole, fraction)) :
    coordinate? inRange cs =
      if inRange whole fraction then (Numeral.read? cs).map Numeral.toDouble else none := by
  rw [coordinate?, h]
  rfl

/-- A coordinate is no number of degrees beyond the last. -/
theorem isUpTo_of_coordinate? (hr : IsDegrees inRange last) (h : coordinate? inRange cs = some x) :
    x.IsUpTo last := by
  rw [coordinate?, Option.bind_eq_some_iff] at h
  obtain ⟨⟨whole, fraction⟩, hsplit, h⟩ := h
  rw [Option.ite_none_right_eq_some] at h
  obtain ⟨hin, h⟩ := h
  obtain ⟨hne, hw⟩ := hr.digits hin
  rw [read?_unsigned hsplit hne hw] at h
  cases h
  have hf : ∀ c ∈ fraction, isDecimal c := by
    rcases splitFraction?_eq_some hsplit with ⟨_, rfl⟩ | ⟨_, _, hf⟩
    · simp
    · exact hf
  have hsmall : last ≤ 2 ^ 53 := hr.small.le.trans (by norm_num)
  refine Numeral.toDouble_isUpTo rfl hr.pos hsmall ?_
  show ofDigits (whole.filterMap decimalDigit? ++ fraction.filterMap decimalDigit?) ≤ _
  rw [Numeral.ofDigits_append, length_filterMap_decimal hf]
  rcases hr.le hin with hlt | ⟨heq, hz⟩
  · calc valueOf whole * 10 ^ fraction.length + valueOf fraction
        ≤ valueOf whole * 10 ^ fraction.length + 10 ^ fraction.length :=
          Nat.add_le_add_left (valueOf_lt hf).le _
      _ = (valueOf whole + 1) * 10 ^ fraction.length := (Nat.succ_mul _ _).symm
      _ ≤ last * 10 ^ fraction.length := Nat.mul_le_mul_right _ hlt
  · show valueOf whole * 10 ^ fraction.length + valueOf fraction ≤ _
    rw [heq, valueOf_zeros hz, Nat.add_zero]

end Read

section Write

open Decimal (Written)

variable {inRange : List Char → List Char → Bool} {last : Nat} {w : Written} {ds : List Nat}

theorem unsigned_signText (hd : d < 10) (negative : Bool) (rest : List Char) :
    unsigned (signText negative ++ digitChar d :: rest) = digitChar d :: rest := by
  have hs := spanSign_eq (signText negative ++ digitChar d :: rest)
  rw [Decimal.spanSign_signText hd, Prod.mk.injEq] at hs
  exact hs.2.symm

theorem point_not_mem_digits (h : ∀ d ∈ ds, d < 10) : '.' ∉ ds.map digitChar := by
  intro hm
  obtain ⟨d, hd, he⟩ := List.mem_map.mp hm
  exact Decimal.digitChar_ne (h d hd) (by decide) he

theorem isDecimal_digits (h : ∀ d ∈ ds, d < 10) : ∀ c ∈ ds.map digitChar, isDecimal c := by
  intro c hc
  obtain ⟨d, hd, rfl⟩ := List.mem_map.mp hc
  rw [isDecimal, Decimal.decimalDigit?_digitChar (h d hd)]
  rfl

theorem filterMap_digits (h : ∀ d ∈ ds, d < 10) :
    (ds.map digitChar).filterMap decimalDigit? = ds := by
  induction ds with
  | nil => rfl
  | cons d ds ih =>
    obtain ⟨hd, h⟩ := List.forall_mem_cons.mp h
    rw [List.map_cons, List.filterMap_cons_some (Decimal.decimalDigit?_digitChar hd), ih h]

/-- A number without an exponent is split at its point. -/
theorem splitFraction?_text (hd : ∀ d ∈ w.whole ++ w.fraction, d < 10) (he : w.exponent = none) :
    splitFraction? w.text = some (w.whole.map digitChar, w.fraction.map digitChar) := by
  obtain ⟨hw, hf⟩ := List.forall_mem_append.mp hd
  have hpoint := point_not_mem_digits hw
  rw [Written.text, Written.exponentText, he, List.append_nil, Written.fractionText]
  cases hfs : w.fraction with
  | nil =>
    rw [List.append_nil]
    exact splitFraction?_of_no_point hpoint
  | cons x xs =>
    rw [hfs] at hf
    have hall : ((x :: xs).map digitChar).all isDecimal :=
      List.all_eq_true.mpr (isDecimal_digits hf)
    show splitFraction? (w.whole.map digitChar ++ '.' :: (x :: xs).map digitChar) = _
    rw [splitFraction?_point hpoint, hall, List.map_cons]
    rfl

/-- A number within the range that has no exponent is read as it is written. -/
theorem coordinate?_text (hr : IsDegrees inRange last)
    (hd : ∀ d ∈ w.whole ++ w.fraction, d < 10) (he : w.exponent = none)
    (hin : inRange (w.whole.map digitChar) (w.fraction.map digitChar)) (negative : Bool) :
    coordinate? inRange (signText negative ++ w.text) = some (w.numeral negative).toDouble := by
  obtain ⟨hne, hdecimal⟩ := hr.digits hin
  obtain ⟨hw, hf⟩ := List.forall_mem_append.mp hd
  obtain ⟨d, ds, hwhole⟩ := List.exists_cons_of_ne_nil (List.map_eq_nil_iff.not.mp hne)
  have hfirst : d < 10 := hw d (by simp [hwhole])
  have htext : w.text =
      digitChar d :: (ds.map digitChar ++ (w.fractionText ++ w.exponentText)) := by
    rw [Written.text, hwhole]
    rfl
  have hu : unsigned (signText negative ++ w.text) = w.text := by
    rw [htext]
    exact unsigned_signText hfirst negative _
  have hsign : (Numeral.spanSign (signText negative ++ w.text)).1 = negative := by
    rw [htext, Decimal.spanSign_signText hfirst]
  have hsplit : splitFraction? (unsigned (signText negative ++ w.text)) =
      some (w.whole.map digitChar, w.fraction.map digitChar) := by
    rw [hu, splitFraction?_text hd he]
  have hread := read?_unsigned hsplit hne hdecimal
  rw [filterMap_digits hw, filterMap_digits hf, hsign] at hread
  rw [coordinate?_of_split hsplit, if_pos hin, hread, Written.numeral, he]
  rfl

/-- A number with an exponent is no coordinate. -/
theorem coordinate?_text_none (hr : IsDegrees inRange last) (hw : w.IsFloat)
    (he : w.exponent = some e) (negative : Bool) :
    coordinate? inRange (signText negative ++ w.text) = none := by
  obtain ⟨d, tail, hd, htext⟩ := hw.text_eq_cons
  obtain ⟨hwhole, hf⟩ := List.forall_mem_append.mp hw.digits
  have hu : unsigned (signText negative ++ w.text) = w.text := by
    rw [htext]
    exact unsigned_signText hd negative _
  have hmark : 'e' ∈ w.exponentText := by
    rw [Written.exponentText, he]
    exact List.mem_cons_self
  have hmarked : ¬isDecimal 'e' := by decide
  have hno : '.' ∉ w.whole.map digitChar ++ w.exponentText := by
    rw [List.mem_append, not_or, Written.exponentText, he]
    refine ⟨point_not_mem_digits hwhole, ?_⟩
    have hdigits := point_not_mem_digits (Decimal.exponentFigures_lt e.natAbs)
    by_cases hs : e < 0
    · simpa [hs] using hdigits
    · simpa [hs] using hdigits
  cases hfs : w.fraction with
  | nil =>
    have htext : w.text = w.whole.map digitChar ++ w.exponentText := by
      rw [Written.text, Written.fractionText, hfs]
      rfl
    rw [coordinate?_of_split (by rw [hu, htext, splitFraction?_of_no_point hno]), if_neg]
    intro hin
    exact hmarked ((hr.digits hin).2 'e' (List.mem_append_right _ hmark))
  | cons x xs =>
    have hall : ¬((x :: xs).map digitChar ++ w.exponentText).all isDecimal := by
      rw [List.all_eq_true]
      intro hall
      exact hmarked (hall 'e' (List.mem_append_right _ hmark))
    have htext : w.text =
        w.whole.map digitChar ++ '.' :: ((x :: xs).map digitChar ++ w.exponentText) := by
      rw [Written.text, Written.fractionText, hfs]
      rfl
    rw [coordinate?, hu, htext, splitFraction?_point (point_not_mem_digits hwhole), if_neg]
    · rfl
    · rw [Bool.and_eq_true]
      exact fun h => hall h.2

theorem key_ofRank (hi : rank < infinityRank) (negative : Bool) :
    (ofRank negative rank).key = some (if negative then -(rank : Int) else rank) := by
  simp only [ofRank, Double.key, Nat.min_eq_left hi.le]

theorem isInteger_iff (hi : rank < infinityRank) (negative : Bool) :
    (ofRank negative rank).isInteger ↔ units rank % unitsOfOne = 0 := by
  simp only [ofRank, Double.isInteger, Nat.min_eq_left hi.le, Bool.and_eq_true, beq_iff_eq,
    decide_eq_true hi, true_and]

/-- A whole number of degrees is written in digits. -/
theorem formatNumber_whole (hi : rank < infinityRank) (hu : units rank = n * unitsOfOne)
    (negative : Bool) : (formatNumber (ofRank negative rank)).toList =
      signText (negative && n != 0) ++ (⟨figures n, [], none⟩ : Written).text := by
  have hinteger : (ofRank negative rank).isInteger := by
    rw [isInteger_iff hi, hu, Nat.mul_mod_left]
  have htruncate : (ofRank negative rank).truncate? =
      some (if negative then -(n : Int) else n) := by
    simp only [ofRank, Double.truncate?, Nat.min_eq_left hi.le, if_pos hi, hu]
    rw [Nat.cast_mul, Int.mul_ediv_cancel _ (Nat.cast_ne_zero.mpr Double.unitsOfOne_pos.ne')]
  have htext : (⟨figures n, [], none⟩ : Written).text = Decimal.digits n := by
    rw [Decimal.digits_eq]
    simp [Written.text, Written.fractionText, Written.exponentText]
  rw [formatNumber, if_pos hinteger, htruncate, Option.getD_some, String.toList_ofList,
    Decimal.ofInt, htext]
  cases negative with
  | false => simp [signText]
  | true =>
    by_cases hn : n = 0
    · simp [hn, signText]
    · simp [hn, signText]

/-- A whole number of degrees is read back, but for the sign of zero. -/
theorem coordinate?_whole (hr : IsDegrees inRange last) (hi : rank < infinityRank)
    (hu : units rank = n * unitsOfOne) (hn : n ≤ last) (negative : Bool) :
    ∃ y, coordinate? inRange (formatNumber (ofRank negative rank)).toList = some y ∧
      y.key = (ofRank negative rank).key := by
  have hdigits : ∀ d ∈ figures n ++ [], d < 10 := by
    simpa using Decimal.figures_lt n
  have hin : inRange ((figures n).map digitChar) [] := by
    rw [← Decimal.digits_eq]
    exact hr.whole n hn
  have hread := coordinate?_text (w := ⟨figures n, [], none⟩) hr hdigits rfl hin
    (negative && n != 0)
  rw [formatNumber_whole hi hu]
  refine ⟨_, hread, ?_⟩
  by_cases h0 : n = 0
  · have hrank : rank = 0 := by
      by_contra hne
      have hpos := Double.units_strictMono (Nat.pos_of_ne_zero hne)
      rw [hu, h0, Nat.zero_mul] at hpos
      exact Nat.not_lt_zero _ hpos
    have hsign : (negative && n != 0) = false := by simp [h0]
    have hzero : ((⟨figures n, [], none⟩ : Written).numeral false).toDouble = ofRank false 0 :=
      Numeral.toDouble_ofWhole_zero (by rw [Decimal.ofDigits_figures, h0])
    rw [hsign, hzero, hrank, key_ofRank (by decide), key_ofRank (by decide)]
    simp
  · have hrank : 0 < rank := by
      refine Nat.pos_of_ne_zero fun hzero => ?_
      rw [hzero] at hu
      exact Nat.mul_ne_zero h0 Double.unitsOfOne_pos.ne' hu.symm
    have hsign : (negative && n != 0) = negative := by simp [h0]
    have hround := Double.RoundsTo.of_units hu hrank
    have hpos : 0 < ofDigits (figures n ++ []) := by
      rw [List.append_nil, Decimal.ofDigits_figures]
      exact Nat.pos_of_ne_zero h0
    rw [hsign, Numeral.toDouble_eq hdigits hpos hrank hi]
    · rfl
    · simpa [Numeral.scale, Written.numeral, Decimal.ofDigits_figures] using hround

theorem formatNumber_fraction (h : ¬(ofRank negative rank).isInteger) (hi : rank < infinityRank)
    (h0 : 0 < rank) : (formatNumber (ofRank negative rank)).toList =
      signText negative ++ (Decimal.shortest rank).written.text := by
  obtain ⟨hc, _⟩ := Decimal.roundsTo_shortest h0 hi
  rw [formatNumber, if_neg h, String.toList_ofList, ofRank, Decimal.ofDouble]
  simp only [Nat.min_eq_left hi.le, if_neg (Nat.not_le.mpr hi), if_neg h0.ne',
    Decimal.layout_eq hc]
  cases negative <;> rfl

theorem not_isTiny_whole (hi : rank < infinityRank) (hu : units rank = n * unitsOfOne)
    (negative : Bool) : ¬(ofRank negative rank).IsTiny := by
  rw [Double.ofRank_isTiny hi, ← Nat.not_le (a := Double.tenThousandth),
    Double.tenThousandth_le_iff, hu]
  rintro ⟨hpos, hlt⟩
  have hn : n ≠ 0 := by
    rintro rfl
    have hrank := Double.units_strictMono hpos
    rw [hu, Nat.zero_mul] at hrank
    exact Nat.not_lt_zero _ hrank
  refine hlt ?_
  calc unitsOfOne ≤ n * unitsOfOne := Nat.le_mul_of_pos_left _ (Nat.pos_of_ne_zero hn)
    _ ≤ n * unitsOfOne * 10 ^ 4 := Nat.le_mul_of_pos_right _ (by positivity)

theorem pos_of_not_isInteger (hi : rank < infinityRank) (h : ¬(ofRank negative rank).isInteger) :
    0 < rank := by
  rw [isInteger_iff hi] at h
  refine Nat.pos_of_ne_zero fun hz => h ?_
  have hu : units rank = 0 := by
    rw [hz]
    rfl
  rw [hu]
  exact Nat.zero_mod _

/-- A fraction of a degree is read back unless it is tiny. -/
theorem coordinate?_fraction (hr : IsDegrees inRange last) (hi : rank < infinityRank)
    (hle : units rank ≤ last * unitsOfOne) (h : ¬(ofRank negative rank).isInteger) :
    coordinate? inRange (formatNumber (ofRank negative rank)).toList =
      if rank < Double.tenThousandth then none else some (ofRank negative rank) := by
  have h0 := pos_of_not_isInteger hi h
  have hlt : units rank < last * unitsOfOne := by
    refine lt_of_le_of_ne hle fun he => h ?_
    rw [isInteger_iff hi, he, Nat.mul_mod_left]
  have hthousand : units rank < 1000 * unitsOfOne :=
    hlt.trans_le (Nat.mul_le_mul_right unitsOfOne hr.small.le)
  obtain ⟨hc, hround⟩ := Decimal.roundsTo_shortest h0 hi
  have hw := Decimal.isFloat_written hc
  have hexp := Decimal.exponent_shortest h0 hthousand
  rw [formatNumber_fraction h hi h0]
  split
  · rename_i htiny
    obtain ⟨e, he⟩ := Option.ne_none_iff_exists'.mp (hexp.not.mpr (Nat.not_le.mpr htiny))
    exact coordinate?_text_none hr hw he negative
  · rename_i hplain
    have he := hexp.mpr (Nat.not_lt.mp hplain)
    have hwhole := Decimal.whole_lt h0 (hr.small.le.trans (by norm_num)) hlt he
    have hfigures := Decimal.figures_ofDigits (List.forall_mem_append.mp hw.digits).1 hw.whole
    have hin := hr.before _ hwhole ((Decimal.shortest rank).written.fraction.map digitChar)
    rw [Decimal.digits_eq, hfigures] at hin
    rw [coordinate?_text hr hw.digits he hin, Decimal.toDouble_written hc hround h0 hi]

/-- A coordinate is read back from its text, but for the sign of zero, unless it is tiny. -/
theorem coordinate?_formatNumber (hr : IsDegrees inRange last) (hx : x.IsUpTo last) :
    (x.IsTiny ∧ coordinate? inRange (formatNumber x).toList = none) ∨
      (¬x.IsTiny ∧ ∃ y, coordinate? inRange (formatNumber x).toList = some y ∧ y.key = x.key) := by
  obtain ⟨negative, rank, rfl, hi, hle⟩ := hx
  by_cases h : (ofRank negative rank).isInteger
  · have hm := (isInteger_iff hi negative).mp h
    have hu : units rank = units rank / unitsOfOne * unitsOfOne :=
      (Nat.div_mul_cancel (Nat.dvd_of_mod_eq_zero hm)).symm
    have hn : units rank / unitsOfOne ≤ last :=
      Nat.div_le_of_le_mul (Nat.mul_comm last _ ▸ hle)
    exact .inr ⟨not_isTiny_whole hi hu negative, coordinate?_whole hr hi hu hn negative⟩
  · have hread := coordinate?_fraction hr hi hle h
    rw [Double.ofRank_isTiny hi]
    by_cases hrank : rank < Double.tenThousandth
    · rw [if_pos hrank] at hread
      exact .inl ⟨⟨pos_of_not_isInteger hi h, hrank⟩, hread⟩
    · rw [if_neg hrank] at hread
      exact .inr ⟨fun ht => hrank ht.2, _, hread, rfl⟩

end Write

end Covenant.Check.Geo
