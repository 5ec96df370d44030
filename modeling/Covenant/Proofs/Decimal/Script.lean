import Covenant.Decimal.Numeral
import Covenant.Proofs.Text

/-! Decimal digits of any script: they are not blanks, and in ASCII there are ten of them. -/

namespace Covenant

theorem words_ofList (cs : List Char) : words (String.ofList cs) =
    (splitWhere (fun c => c == ' ' || c == '\n') cs).filter (!·.isEmpty) := by
  rw [words, String.toList_ofList]

/-- Reads one range `low-high`; without a second end it is a single code point. -/
def CodeSet.readRange (w : List Char) : Nat × Nat :=
  match splitWhere (· == '-') w with
  | [low, high] => (hexNumber low, hexNumber high)
  | _ => (hexNumber w, hexNumber w)

theorem CodeSet.read_ofList (cs : List Char) : CodeSet.read (String.ofList cs) =
    ⟨(((splitWhere (fun c => c == ' ' || c == '\n') cs).filter (!·.isEmpty)).map
      CodeSet.readRange).toArray⟩ :=
  congrArg (fun ws => (⟨(ws.map CodeSet.readRange).toArray⟩ : CodeSet)) (words_ofList cs)

/-- Whether a range has none of the blanks beyond ASCII. -/
def sparesBlanks (range : Nat × Nat) : Bool :=
  range.2 ≤ 0x39 || (0xA0 < range.1 && range.2 < 0x1680)
    || (0x1680 < range.1 && range.2 < 0x2000) || 0x3000 < range.1

set_option maxRecDepth 10000 in
theorem Unicode.decimalSet_sparesBlanks : decimalSet.ranges.toList.all sparesBlanks := by
  have h : decimalSet = _ := CodeSet.read_ofList _
  rw [h]
  rfl

theorem CodeMap.read_ofList (cs : List Char) : CodeMap.read (String.ofList cs) =
    ⟨(((splitWhere (fun c => c == ' ' || c == '\n') cs).filter (!·.isEmpty)).map
      CodeMap.readRange).toArray⟩ :=
  congrArg (fun ws => (⟨(ws.map CodeMap.readRange).toArray⟩ : CodeMap)) (words_ofList cs)

set_option maxRecDepth 20000 in
theorem Unicode.lowerMap_targets :
    lowerMap.ranges.toList.all fun range => 97 ≤ range.2.2.2 := by
  have h : lowerMap = _ := CodeMap.read_ofList _
  rw [h]
  rfl

theorem Unicode.le_of_lowerMap (h : lowerMap.get? n = some m) : 97 ≤ m := by
  rw [CodeMap.get?] at h
  split at h
  · rename_i low high step target hr
    obtain ⟨hi, he⟩ := Array.getElem?_eq_some_iff.mp hr
    have hmem : (low, high, step, target) ∈ lowerMap.ranges := he ▸ Array.getElem_mem hi
    have ht := List.all_eq_true.mp lowerMap_targets _ hmem.val
    rw [decide_eq_true_eq] at ht
    split at h
    · cases h
      exact le_add_right ht
    · cases h
  · cases h

theorem isDecimal_of_ascii (h : c.toNat < 128) : isDecimal c = isAsciiDigit c := by
  rw [isDecimal, decimalDigit?, isAsciiDigit]
  dsimp only
  rw [if_pos h]
  split
  · rename_i hc
    simp [hc]
  · rename_i hc
    simpa using hc

theorem isDecimal_of_isAsciiDigit (h : isAsciiDigit c) : isDecimal c := by
  have hlt : c.toNat < 128 := by
    rw [isAsciiDigit, Bool.and_eq_true, decide_eq_true_eq, decide_eq_true_eq] at h
    omega
  rwa [isDecimal_of_ascii hlt]

/-- Beyond ASCII, a decimal digit is in one of the ranges of the table. -/
theorem exists_range_of_isDecimal (h : isDecimal c) (hc : ¬c.toNat < 128) :
    ∃ range ∈ Unicode.decimalSet.ranges, range.1 ≤ c.toNat ∧ c.toNat ≤ range.2 := by
  rw [isDecimal, decimalDigit?] at h
  dsimp only at h
  rw [if_neg hc] at h
  split at h
  · rename_i low high hr
    obtain ⟨hi, he⟩ := Array.getElem?_eq_some_iff.mp hr
    split at h
    · rename_i hin
      exact ⟨(low, high), he ▸ Array.getElem_mem hi, hin⟩
    · cases h
  · cases h

theorem not_isBlank_of_isDecimal (h : isDecimal c) : ¬isBlank c := by
  by_cases hc : c.toNat < 128
  · rw [isDecimal_of_ascii hc] at h
    exact not_isBlank_of_digit h
  · obtain ⟨range, hr, hlow, hhigh⟩ := exists_range_of_isDecimal h hc
    have hs := List.all_eq_true.mp Unicode.decimalSet_sparesBlanks range hr.val
    simp only [sparesBlanks, Bool.or_eq_true, Bool.and_eq_true, decide_eq_true_eq] at hs
    simp only [isBlank, Bool.or_eq_true, Bool.and_eq_true, decide_eq_true_eq, beq_iff_eq]
    omega

/-- The digits at the start of a text, up to a character that is none. -/
theorem Numeral.spanDigits_append (h : ∀ c ∈ ds, isDecimal c)
    (hr : ∀ c ∈ rest.head?, ¬isDecimal c) :
    spanDigits (ds ++ rest) = (ds.filterMap decimalDigit?, rest) := by
  induction ds with
  | nil =>
    cases rest with
    | nil => rfl
    | cons c rest =>
      have hc : decimalDigit? c = none := Option.not_isSome_iff_eq_none.mp (hr c rfl)
      rw [List.nil_append, spanDigits, hc]
      rfl
  | cons d ds ih =>
    obtain ⟨hd, h⟩ := List.forall_mem_cons.mp h
    obtain ⟨n, hn⟩ := Option.isSome_iff_exists.mp hd
    rw [List.cons_append, spanDigits, hn, List.filterMap_cons_some hn, ih h]

theorem length_filterMap_decimal {ds : List Char} (h : ∀ c ∈ ds, isDecimal c) :
    (ds.filterMap decimalDigit?).length = ds.length := by
  induction ds with
  | nil => rfl
  | cons d ds ih =>
    obtain ⟨hd, h⟩ := List.forall_mem_cons.mp h
    obtain ⟨n, hn⟩ := Option.isSome_iff_exists.mp hd
    rw [List.filterMap_cons_some hn, List.length_cons, ih h, List.length_cons]

end Covenant
