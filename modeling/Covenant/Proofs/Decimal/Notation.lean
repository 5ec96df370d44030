import Covenant.Proofs.Check.Fault
import Covenant.Proofs.Decimal.Integer

/-! The ways to write an integer that are read exactly, however large it is: in decimal digits, and
in hexadecimal and octal digits behind a zero. -/

namespace Covenant

open Decimal (digitChar figures)

section Bases

variable {b n : Nat} {value : Char → Nat}

/-- Digits of any base are read back as the number that they are of. -/
theorem foldl_toDigits (hb : 1 < b) (hv : ∀ d < b, value (Nat.digitChar d) = d) (n : Nat) :
    (Nat.toDigits b n).foldl (fun m c => b * m + value c) 0 = n := by
  induction n using Nat.strong_induction_on with
  | _ n ih =>
    rw [Nat.toDigits_eq_if hb]
    split
    · rename_i hn
      rw [List.foldl_cons, List.foldl_nil, hv n hn, Nat.mul_zero, Nat.zero_add]
    · have hdiv : n / b < n := Nat.div_lt_self (by omega) hb
      have hmod : n % b < b := Nat.mod_lt n (by omega)
      rw [List.foldl_append, ih _ hdiv, List.foldl_cons, List.foldl_nil, hv _ hmod,
        Nat.div_add_mod]

theorem exists_digitChar_of_mem (hb : 1 < b) (h : c ∈ Nat.toDigits b n) :
    ∃ d < b, c = Nat.digitChar d := by
  induction n using Nat.strong_induction_on with
  | _ n ih =>
    rw [Nat.toDigits_eq_if hb] at h
    split at h
    · rename_i hn
      exact ⟨n, hn, List.mem_singleton.mp h⟩
    · have hdiv : n / b < n := Nat.div_lt_self (by omega) hb
      rcases List.mem_append.mp h with h | h
      · exact ih _ hdiv h
      · exact ⟨n % b, Nat.mod_lt n (by omega), List.mem_singleton.mp h⟩

theorem hexDigit?_lowerAscii (c : Char) : hexDigit? (lowerAscii c) = hexDigit? c := by
  simp only [hexDigit?, toNat_lowerAscii]
  split
  · rename_i hc
    rw [isAsciiUpper, Bool.and_eq_true, decide_eq_true_eq, decide_eq_true_eq] at hc
    by_cases hf : c.toNat ≤ 70
    · rw [if_neg (by omega), if_pos (by omega), if_neg (by omega), if_neg (by omega),
        if_pos (by omega), show c.toNat + 32 - 87 = c.toNat - 55 by omega]
    · rw [if_neg (by omega), if_neg (by omega), if_neg (by omega), if_neg (by omega),
        if_neg (by omega), if_neg (by omega)]
  · rfl

theorem hexDigit?_digitChar (h : d < 16) : hexDigit? (Nat.digitChar d) = some d := by
  revert d
  decide

theorem isOctal_digitChar (h : d < 8) : Loose.isOctal (Nat.digitChar d) := by
  revert d
  decide

theorem digitChar_ne_mark (h : d < 8) : Nat.digitChar d ≠ 'x' ∧ Nat.digitChar d ≠ 'X' := by
  revert d
  decide

end Bases

namespace Loose

/-- The ways to write an integer: in decimal digits, with a minus for a negative one and perhaps
with a plus for another; behind `0x`, in hexadecimal digits of either case, perhaps with zeros in
front; and behind a zero, in octal digits. -/
inductive Writes : Int → List Char → Prop
  | decimal (hl : (figures i.natAbs).length ≤ digitLimit) : Writes i (Decimal.ofInt i)
  | plus (hl : (figures n).length ≤ digitLimit) : Writes (n : Nat) ('+' :: Decimal.digits n)
  | hexadecimal (hx : x ∈ ['x', 'X']) (zeros : Nat)
      (hd : digits.map lowerAscii = Nat.toDigits 16 n) :
      Writes (n : Nat) ('0' :: x :: (List.replicate zeros '0' ++ digits))
  | octal (n : Nat) : Writes n ('0' :: Nat.toDigits 8 n)

variable {digits cs : List Char} {i : Int} {n : Nat}

section Decimal

theorem readHex?_of_head (h : ∀ c ∈ cs.head?, c ≠ '0') : readHex? cs = none := by
  cases hr : readHex? cs with
  | none => rfl
  | some n =>
    obtain ⟨rest, rfl⟩ := readHex?_eq_some hr
    exact absurd rfl (h '0' rfl)

theorem readOctal?_of_head (h : ∀ c ∈ cs.head?, c ≠ '0') : readOctal? cs = none := by
  cases hr : readOctal? cs with
  | none => rfl
  | some n =>
    obtain ⟨rest, rfl⟩ := readOctal?_eq_some hr
    exact absurd rfl (h '0' rfl)

theorem digitChar_ne_zero (h : d < 10) (hd : d ≠ 0) : digitChar d ≠ '0' := by
  revert d
  decide

/-- A sign and the digits of a number are read as these. -/
theorem readInteger?_of_sign (hs : Numeral.spanSign cs = (negative, (figures n).map digitChar)) :
    readInteger? cs = some (negative, figures n) := by
  rw [readInteger?]
  simp only [hs]
  rcases Decimal.figures_leading n with hf | ⟨d, ds, hf, hd⟩
  · rw [hf]
    rfl
  · have hlt : d < 10 := Decimal.figures_lt n d (by simp [hf])
    have hzero : digitChar d ≠ '0' := digitChar_ne_zero hlt hd
    have hspan := Numeral.spanDigits_figures n
    rw [hf, List.map_cons] at hspan ⊢
    split
    · rename_i he
      exact absurd (List.cons.inj he).1 hzero
    · rename_i c rest _ he
      obtain ⟨rfl, rfl⟩ := List.cons.inj he
      rw [if_pos ⟨Decimal.isAsciiDigit_digitChar hlt, hzero⟩, hspan]
    · rename_i he
      cases he

/-- Decimal digits behind a sign are not taken for digits of another base. -/
theorem readInt?_of_sign (hs : Numeral.spanSign cs = (negative, (figures n).map digitChar))
    (hhex : readHex? cs = none) (hoctal : readOctal? cs = none)
    (hl : (figures n).length ≤ digitLimit) :
    readInt? cs = .ok (some (if negative then -(n : Int) else n)) := by
  rw [readInt?, hhex, hoctal, readInteger?_of_sign hs]
  dsimp only
  rw [if_neg (Nat.not_lt.mpr hl), Decimal.ofDigits_figures]

/-- No digit follows a zero in front, so that there is no base in front of decimal digits. -/
theorem unprefixed_ofInt (i : Int) :
    readHex? (Decimal.ofInt i) = none ∧ readOctal? (Decimal.ofInt i) = none := by
  rcases Decimal.figures_leading i.natAbs with hf | ⟨d, ds, hf, hd⟩
  · rw [Decimal.ofInt, Decimal.digits_eq, hf]
    split
    · exact ⟨rfl, rfl⟩
    · exact ⟨rfl, rfl⟩
  · have hlt : d < 10 := Decimal.figures_lt i.natAbs d (by simp [hf])
    have hhead : ∀ c ∈ (Decimal.ofInt i).head?, c ≠ '0' := by
      intro c hc
      rw [Decimal.ofInt, Decimal.digits_eq, hf] at hc
      split at hc
      · cases hc
        decide
      · cases hc
        exact digitChar_ne_zero hlt hd
    exact ⟨readHex?_of_head hhead, readOctal?_of_head hhead⟩

theorem readInt?_decimal (hl : (figures i.natAbs).length ≤ digitLimit) :
    readInt? (Decimal.ofInt i) = .ok (some i) := by
  obtain ⟨hhex, hoctal⟩ := unprefixed_ofInt i
  rw [readInt?_of_sign (Numeral.spanSign_ofInt i) hhex hoctal hl]
  by_cases hi : i < 0
  · rw [decide_eq_true hi, if_pos rfl]
    congr 2
    omega
  · rw [decide_eq_false hi, if_neg Bool.false_ne_true]
    congr 2
    omega

theorem readInt?_plus (hl : (figures n).length ≤ digitLimit) :
    readInt? ('+' :: Decimal.digits n) = .ok (some (n : Int)) := by
  have hs : Numeral.spanSign ('+' :: Decimal.digits n) = (false, (figures n).map digitChar) := by
    rw [Numeral.spanSign, Decimal.digits_eq]
  have hhead : ∀ c ∈ ('+' :: Decimal.digits n).head?, c ≠ '0' := by
    intro c hc
    cases hc
    decide
  exact readInt?_of_sign hs (readHex?_of_head hhead) (readOctal?_of_head hhead) hl

end Decimal

section Prefixed

theorem isHexDigit_of_toDigits (h : digits.map lowerAscii = Nat.toDigits 16 n) :
    ∀ c ∈ digits, isHexDigit c := by
  intro c hc
  have hm : lowerAscii c ∈ Nat.toDigits 16 n := h ▸ List.mem_map_of_mem hc
  obtain ⟨d, hd, he⟩ := exists_digitChar_of_mem (by decide) hm
  rw [isHexDigit, ← hexDigit?_lowerAscii, he, hexDigit?_digitChar hd]
  rfl

/-- Zeros in front and the case of the letters do not matter. -/
theorem hexNumber_eq (h : digits.map lowerAscii = Nat.toDigits 16 n) (zeros : Nat) :
    hexNumber (List.replicate zeros '0' ++ digits) = n := by
  have hzeros : (List.replicate zeros '0').foldl
      (fun m c => 16 * m + (hexDigit? c).getD 0) 0 = 0 := by
    induction zeros with
    | zero => rfl
    | succ zeros ih => exact ih
  have hread := @foldl_toDigits 16 (fun c => (hexDigit? c).getD 0) (by decide)
    (fun d hd => by rw [hexDigit?_digitChar hd, Option.getD_some]) n
  rw [← h, List.foldl_map] at hread
  simp only [hexDigit?_lowerAscii] at hread
  rw [hexNumber, List.foldl_append, hzeros, hread]

theorem readInt?_hexadecimal (hx : x ∈ ['x', 'X']) (zeros : Nat)
    (hd : digits.map lowerAscii = Nat.toDigits 16 n) :
    readInt? ('0' :: x :: (List.replicate zeros '0' ++ digits)) = .ok (some (n : Int)) := by
  have hall : ∀ c ∈ List.replicate zeros '0' ++ digits, isHexDigit c := by
    intro c hc
    rcases List.mem_append.mp hc with hc | hc
    · rw [List.eq_of_mem_replicate hc]
      rfl
    · exact isHexDigit_of_toDigits hd c hc
  have hne : List.replicate zeros '0' ++ digits ≠ [] := by
    intro hnil
    have hdigits := (List.append_eq_nil_iff.mp hnil).2
    rw [hdigits] at hd
    exact Nat.toDigits_ne_nil hd.symm
  have hvalue := hexNumber_eq hd zeros
  obtain ⟨c, rest, hbody⟩ := List.exists_cons_of_ne_nil hne
  rw [hbody] at hall hvalue ⊢
  have hread : readHex? ('0' :: x :: c :: rest) = some n := by
    rw [readHex?, if_pos ⟨by simpa using hx, List.all_eq_true.mpr hall⟩, hvalue]
  rw [readInt?, hread]

theorem readInt?_octal (n : Nat) :
    readInt? ('0' :: Nat.toDigits 8 n) = .ok (some (n : Int)) := by
  have hmem : ∀ c ∈ Nat.toDigits 8 n, ∃ d < 8, c = Nat.digitChar d := by
    intro c hc
    exact exists_digitChar_of_mem (by decide) hc
  have hvalue := @foldl_toDigits 8 (fun c => c.toNat - 48) (by decide) (by decide) n
  obtain ⟨c, rest, hdigits⟩ := List.exists_cons_of_ne_nil (Nat.toDigits_ne_nil (n := n) (b := 8))
  rw [hdigits] at hmem hvalue ⊢
  have hread : readOctal? ('0' :: c :: rest) = some n := by
    rw [readOctal?, if_pos, hvalue]
    rw [List.all_eq_true]
    intro e he
    obtain ⟨d, hd, rfl⟩ := hmem e he
    exact isOctal_digitChar hd
  -- the first digit is not the mark of the hexadecimal ones
  have hhex : readHex? ('0' :: c :: rest) = none := by
    obtain ⟨d, hd, rfl⟩ := hmem c List.mem_cons_self
    have hmark : Nat.digitChar d ≠ 'x' ∧ Nat.digitChar d ≠ 'X' := digitChar_ne_mark hd
    cases rest with
    | nil => rfl
    | cons e rest => rw [readHex?, if_neg (by simp [hmark])]
  rw [readInt?, hhex, hread]

end Prefixed

theorem Writes.readInt? (h : Writes i cs) : readInt? cs = .ok (some i) := by
  cases h with
  | decimal hl => exact readInt?_decimal hl
  | plus hl => exact readInt?_plus hl
  | hexadecimal hx zeros hd => exact readInt?_hexadecimal hx zeros hd
  | octal n => exact readInt?_octal n

theorem Writes.not_isBlank (h : Writes i cs) : ∀ c ∈ cs, ¬isBlank c := by
  intro c hc
  cases h with
  | decimal _ => exact Decimal.not_isBlank_of_mem_ofInt hc
  | @plus n _ =>
    rcases List.mem_cons.mp hc with rfl | hc
    · decide
    · exact Decimal.not_isBlank_of_mem_ofInt (i := n) hc
  | hexadecimal hx zeros hd =>
    rcases List.mem_cons.mp hc with rfl | hc
    · decide
    rcases List.mem_cons.mp hc with rfl | hc
    · rcases List.mem_pair.mp hx with rfl | rfl
      · decide
      · decide
    rcases List.mem_append.mp hc with hc | hc
    · rw [List.eq_of_mem_replicate hc]
      decide
    · exact not_isBlank_of_isHexDigit (isHexDigit_of_toDigits hd c hc)
  | octal n =>
    rcases List.mem_cons.mp hc with rfl | hc
    · decide
    obtain ⟨d, hd, rfl⟩ := exists_digitChar_of_mem (by decide) hc
    apply not_isBlank_of_isHexDigit
    rw [isHexDigit, hexDigit?_digitChar (by omega), Option.isSome_some]

/-- Each way to write an integer is read as this integer, blanks around it or not. -/
theorem toInt?_written {before after : List Char} (h : Writes i cs)
    (hb : ∀ c ∈ before, isBlank c) (ha : ∀ c ∈ after, isBlank c) :
    toInt? (.text (String.ofList (before ++ cs ++ after))) = .ok (some i) := by
  have htrim : trim (before ++ cs ++ after) = cs := by
    rw [trim_between hb ha, trim_of_no_blank h.not_isBlank]
  rw [toInt?, String.toList_ofList, htrim, h.readInt?]

theorem toInt?_written_each :
    toInt? (.text (String.ofList (['\t'] ++ Decimal.ofInt (-255) ++ [' ']))) = .ok (some (-255)) ∧
      toInt? (.text (String.ofList ([' '] ++ '+' :: Decimal.digits 255 ++ [' ']))) =
        .ok (some 255) ∧
      toInt? (.text (String.ofList ([' '] ++ "0X00fF".toList ++ ['\t']))) = .ok (some 255) ∧
      toInt? (.text (String.ofList (['\t'] ++ '0' :: Nat.toDigits 8 255 ++ [' ']))) =
        .ok (some 255) := by
  have htab : ∀ c ∈ ['\t'], isBlank c := List.forall_mem_singleton.mpr rfl
  have hspace : ∀ c ∈ [' '], isBlank c := List.forall_mem_singleton.mpr rfl
  have hfigures : (figures 255).length ≤ digitLimit := by decide
  have hupper : ['f', 'F'].map lowerAscii = Nat.toDigits 16 255 := by decide
  refine ⟨?_, ?_, ?_, ?_⟩
  · exact toInt?_written (.decimal hfigures) htab hspace
  · exact toInt?_written (.plus hfigures) hspace hspace
  · exact toInt?_written (.hexadecimal (by decide) 2 hupper) hspace htab
  · exact toInt?_written (.octal 255) htab hspace

end Loose
end Covenant
