import Covenant.Proofs.Check.Default
import Covenant.Proofs.Check.Repeat
import Mathlib.Algebra.BigOperators.Group.List.Basic
import Mathlib.Data.Nat.ModEq
import Mathlib.Tactic.Ring

/-! The last symbol of a product number shows when another one was mistyped. -/

namespace Covenant

/-- Two lists that differ in one place. -/
inductive OneOff : List α → List α → Prop where
  | mk (before after : List α) (h : x ≠ y) : OneOff (before ++ x :: after) (before ++ y :: after)

/-- Two lists that differ in the order of two neighbours. -/
inductive Swapped : List α → List α → Prop where
  | mk (before after : List α) (h : x ≠ y) :
      Swapped (before ++ x :: y :: after) (before ++ y :: x :: after)

theorem OneOff.length_eq {as bs : List α} (h : OneOff as bs) : as.length = bs.length := by
  obtain ⟨before, after, _⟩ := h
  rw [List.length_append, List.length_append, List.length_cons, List.length_cons]

theorem Swapped.length_eq {as bs : List α} (h : Swapped as bs) : as.length = bs.length := by
  obtain ⟨before, after, _⟩ := h
  simp only [List.length_append, List.length_cons]

theorem OneOff.reverse {as bs : List α} (h : OneOff as bs) : OneOff as.reverse bs.reverse := by
  obtain ⟨before, after, h⟩ := h
  rw [List.reverse_append, List.reverse_append, List.reverse_cons, List.reverse_cons,
    List.append_assoc, List.append_assoc]
  exact .mk after.reverse before.reverse h

namespace Check

section WeightedSum

variable {value : Char → Nat} {weight : Nat → Nat} {m rest w x y : Nat} {cs ds : List Char}

theorem weightedSum_eq (value : Char → Nat) (weight : Nat → Nat) (cs : List Char) :
    weightedSum value weight cs = (cs.zipIdx.map fun p => value p.1 * weight p.2).sum := by
  rw [weightedSum, List.sum_eq_foldl, List.foldl_map]

/-- What the characters around some others contribute does not depend on these. -/
theorem exists_weightedSum_append (value : Char → Nat) (weight : Nat → Nat)
    (before after : List Char) (k : Nat) : ∃ rest, ∀ middle : List Char, middle.length = k →
      weightedSum value weight (before ++ (middle ++ after)) =
        rest + ((middle.zipIdx before.length).map fun p => value p.1 * weight p.2).sum := by
  refine ⟨(before.zipIdx.map fun p => value p.1 * weight p.2).sum +
    ((after.zipIdx (before.length + k)).map fun p => value p.1 * weight p.2).sum, ?_⟩
  rintro middle rfl
  rw [weightedSum_eq, List.zipIdx_append, List.zipIdx_append, List.map_append, List.map_append,
    List.sum_append, List.sum_append, Nat.zero_add]
  omega

/-- A weight without a divisor in common with the modulus tells the values below it apart. -/
theorem eq_of_sum_mod (hw : m.Coprime w) (hx : x < m) (hy : y < m)
    (h : (rest + x * w) % m = 0) (h' : (rest + y * w) % m = 0) : x = y := by
  have hsum : rest + x * w ≡ rest + y * w [MOD m] := h.trans h'.symm
  have hprod : x * w ≡ y * w [MOD m] := Nat.ModEq.add_left_cancel' rest hsum
  exact (Nat.ModEq.cancel_right_of_coprime hw hprod).eq_of_lt_of_lt hx hy

/-- Characters that pass a check by their weighted sum, in which no two characters count alike. -/
structure Sums (value : Char → Nat) (weight : Nat → Nat) (m : Nat) (cs : List Char) : Prop where
  values : ∀ c ∈ cs, value c < m
  weights : ∀ i < cs.length, m.Coprime (weight i)
  sum : weightedSum value weight cs % m = 0

theorem Sums.not_oneOff (h : Sums value weight m cs) (h' : Sums value weight m ds)
    (hinj : ∀ c ∈ cs, ∀ d ∈ ds, value c = value d → c = d) : ¬OneOff cs ds := by
  rintro @⟨c, d, before, after, hne⟩
  obtain ⟨rest, hrest⟩ := exists_weightedSum_append value weight before after 1
  have hc := h.sum
  have hd := h'.sum
  rw [List.append_cons, List.append_assoc, hrest [c] rfl, List.zipIdx_singleton,
    List.map_singleton, List.sum_singleton] at hc
  rw [List.append_cons, List.append_assoc, hrest [d] rfl, List.zipIdx_singleton,
    List.map_singleton, List.sum_singleton] at hd
  have hw := h.weights before.length (by simp)
  have he := eq_of_sum_mod hw (h.values c (by simp)) (h'.values d (by simp)) hc hd
  exact hne (hinj c (by simp) d (by simp) he)

/-- Weights that fall by one tell two neighbours apart. -/
theorem Sums.not_swapped (h : Sums value weight m cs) (h' : Sums value weight m ds)
    (hstep : ∀ i, i + 1 < cs.length → weight i = weight (i + 1) + 1)
    (hinj : ∀ c ∈ cs, ∀ d ∈ ds, value c = value d → c = d) : ¬Swapped cs ds := by
  rintro @⟨c, d, before, after, hne⟩
  obtain ⟨rest, hrest⟩ := exists_weightedSum_append value weight before after 2
  have hs := hstep before.length (by simp)
  have hsum (x y : Char) : weightedSum value weight (before ++ x :: y :: after) =
      rest + (value x + value y) * weight (before.length + 1) + value x * 1 := by
    have hxy := hrest [x, y] rfl
    rw [List.zipIdx_cons, List.zipIdx_singleton, List.map_cons, List.map_singleton,
      List.sum_cons, List.sum_singleton, hs] at hxy
    refine hxy.trans ?_
    dsimp only
    ring
  have hc := h.sum
  have hd := h'.sum
  rw [hsum] at hc hd
  rw [Nat.add_comm (value d)] at hd
  have he := eq_of_sum_mod (Nat.coprime_one_right m) (h.values c (by simp))
    (h'.values d (by simp)) hc hd
  exact hne (hinj c (by simp) d (by simp) he)

end WeightedSum

theorem coprime_oneThree (i : Nat) : Nat.Coprime 10 (oneThree i) := by
  rw [oneThree]
  split
  · decide
  · decide

theorem Isbn.digit_of_ne (h : c ≠ 'X') : digit c = c.toNat - 48 := if_neg h

theorem digit_lt (h : isAsciiDigit c) : c.toNat - 48 < 10 := by
  rw [isAsciiDigit, Bool.and_eq_true, decide_eq_true_eq, decide_eq_true_eq] at h
  omega

theorem digit_inj (hc : isAsciiDigit c) (hd : isAsciiDigit d) (h : c.toNat - 48 = d.toNat - 48) :
    c = d := by
  rw [isAsciiDigit, Bool.and_eq_true, decide_eq_true_eq, decide_eq_true_eq] at hc hd
  exact Char.toNat_inj.mp (by omega)

end Check

namespace Kind

open Check (Sums weightedSum oneThree isEan)
open Check.Isbn (valid10 valid13)

variable {kind : Kind} {mode : Mode} {params : Params} {inner : Check.Delegate} {s : String}

/-- The characters that count in a product number: the digits, and X in an ISBN. -/
def isSymbol (kind : Kind) (c : Char) : Bool := isAsciiDigit c || (kind == isbn && c == 'X')

/-- The symbols of a text, which the characters between them do not matter for. -/
def symbols (kind : Kind) (s : String) : List Char :=
  (if kind = isbn then s.toList.map upperAscii else s.toList).filter kind.isSymbol

/-- Whether symbols are a product number of a kind. -/
def passes (kind : Kind) (cs : List Char) : Bool :=
  if kind = isbn then
    if cs.length = 10 then valid10 cs else cs.length == 13 && valid13 cs
  else isEan cs

theorem check_symbols (hk : kind ∈ [isbn, ean]) (inner : Check.Delegate) (mode : Mode)
    (params : Params) (s : String) : ∃ m, kind.check inner mode params (.text s) =
      if kind.passes (kind.symbols s) then Check.acceptChars (kind.symbols s)
      else refuse m := by
  simp only [List.mem_cons, List.not_mem_nil, or_false] at hk
  rcases hk with rfl | rfl
  · have hs : (s.toList.map upperAscii).filter (fun c => isAsciiDigit c || c == 'X') =
        isbn.symbols s := rfl
    show ∃ m, Check.isbn mode params (.text s) = _
    rw [Check.isbn, passes, if_pos rfl, hs]
    split
    · exact ⟨_, rfl⟩
    · split
      · rename_i hl
        rw [hl, beq_self_eq_true, Bool.true_and]
        exact ⟨_, rfl⟩
      · rename_i hl
        rw [beq_eq_false_iff_ne.mpr hl, Bool.false_and]
        exact ⟨_, rfl⟩
  · have hs : s.toList.filter isAsciiDigit = ean.symbols s := by
      refine List.filter_congr fun c _ => ?_
      exact (Bool.or_false _).symm
    refine ⟨"Data is not a valid EAN.", ?_⟩
    show (if isEan (s.toList.filter isAsciiDigit) then _ else _) = _
    rw [hs]
    rfl

theorem isAsciiDigit_of_isSymbol (h : kind.isSymbol c) (hx : kind = isbn → c ≠ 'X') :
    isAsciiDigit c := by
  rw [isSymbol, Bool.or_eq_true, Bool.and_eq_true, beq_iff_eq, beq_iff_eq] at h
  exact h.resolve_right fun ⟨hk, hc⟩ => hx hk hc

theorem digit_lt_of_isSymbol (h : isbn.isSymbol c) : Check.Isbn.digit c < 11 := by
  by_cases hx : c = 'X'
  · rw [hx]
    decide
  · rw [Check.Isbn.digit_of_ne hx]
    exact (Check.digit_lt (isAsciiDigit_of_isSymbol h fun _ => hx)).trans (by decide)

theorem digit_inj_of_isSymbol (hc : isbn.isSymbol c) (hd : isbn.isSymbol d)
    (h : Check.Isbn.digit c = Check.Isbn.digit d) : c = d := by
  have hlt {e : Char} (he : isbn.isSymbol e) (hx : e ≠ 'X') : Check.Isbn.digit e < 10 := by
    rw [Check.Isbn.digit_of_ne hx]
    exact Check.digit_lt (isAsciiDigit_of_isSymbol he fun _ => hx)
  by_cases hcx : c = 'X'
  · by_cases hdx : d = 'X'
    · rw [hcx, hdx]
    · rw [hcx] at h
      exact absurd h (hlt hd hdx).ne'
  · by_cases hdx : d = 'X'
    · rw [hdx] at h
      exact absurd h (hlt hc hcx).ne
    · rw [Check.Isbn.digit_of_ne hcx, Check.Isbn.digit_of_ne hdx] at h
      exact Check.digit_inj (isAsciiDigit_of_isSymbol hc fun _ => hcx)
        (isAsciiDigit_of_isSymbol hd fun _ => hdx) h

/-- The ten weights of an ISBN-10. -/
theorem sums_of_valid10 (hs : ∀ c ∈ cs, isbn.isSymbol c) (hl : cs.length = 10)
    (h : valid10 cs) : Sums Check.Isbn.digit (10 - ·) 11 cs := by
  rw [valid10, Bool.and_eq_true, beq_iff_eq] at h
  have hw : ∀ i < 10, Nat.Coprime 11 (10 - i) := by decide
  exact ⟨fun c hc => digit_lt_of_isSymbol (hs c hc), fun i hi => hw i (hl ▸ hi), h.2⟩

theorem digits_of_valid13 (hs : ∀ c ∈ cs, isbn.isSymbol c) (h : valid13 cs) :
    ∀ c ∈ cs, isAsciiDigit c := by
  rw [valid13, Bool.and_eq_true, Bool.not_eq_true', ← Bool.not_eq_true,
    List.contains_iff_mem] at h
  intro c hc
  refine isAsciiDigit_of_isSymbol (hs c hc) ?_
  rintro - rfl
  exact h.1 hc

theorem sums_of_valid13 (hs : ∀ c ∈ cs, isbn.isSymbol c) (h : valid13 cs) :
    Sums Check.Isbn.digit oneThree 10 cs := by
  refine ⟨fun c hc => ?_, fun i _ => Check.coprime_oneThree i, ?_⟩
  · have hd := digits_of_valid13 hs h c hc
    have hx : c ≠ 'X' := by
      rintro rfl
      exact absurd hd (by decide)
    rw [Check.Isbn.digit_of_ne hx]
    exact Check.digit_lt hd
  · rw [valid13, Bool.and_eq_true, beq_iff_eq] at h
    exact h.2

theorem sums_of_isEan (hs : ∀ c ∈ cs, isAsciiDigit c) (h : isEan cs) :
    Sums (·.toNat - 48) oneThree 10 cs.reverse := by
  rw [isEan, Bool.and_eq_true, beq_iff_eq] at h
  exact ⟨fun c hc => Check.digit_lt (hs c (List.mem_reverse.mp hc)),
    fun i _ => Check.coprime_oneThree i, h.2⟩

theorem isSymbol_of_mem (h : c ∈ kind.symbols s) : kind.isSymbol c := (List.mem_filter.mp h).2

theorem not_oneOff_of_passes (hk : kind ∈ [isbn, ean]) (hs : ∀ c ∈ cs, kind.isSymbol c)
    (hs' : ∀ c ∈ ds, kind.isSymbol c) (h : kind.passes cs) (h' : kind.passes ds) :
    ¬OneOff cs ds := by
  intro ho
  simp only [List.mem_cons, List.not_mem_nil, or_false] at hk
  rcases hk with rfl | rfl
  · rw [passes, if_pos rfl] at h h'
    rw [← ho.length_eq] at h'
    split at h
    · rename_i hl
      rw [if_pos hl] at h'
      exact (sums_of_valid10 hs hl h).not_oneOff
        (sums_of_valid10 hs' (ho.length_eq.symm.trans hl) h')
        (fun c hc d hd => digit_inj_of_isSymbol (hs c hc) (hs' d hd)) ho
    · rename_i hl
      rw [if_neg hl, Bool.and_eq_true] at h'
      rw [Bool.and_eq_true] at h
      exact (sums_of_valid13 hs h.2).not_oneOff (sums_of_valid13 hs' h'.2)
        (fun c hc d hd => digit_inj_of_isSymbol (hs c hc) (hs' d hd)) ho
  · have hdigit {es : List Char} (he : ∀ c ∈ es, ean.isSymbol c) : ∀ c ∈ es, isAsciiDigit c :=
      fun c hc => isAsciiDigit_of_isSymbol (he c hc) nofun
    refine (sums_of_isEan (hdigit hs) h).not_oneOff (sums_of_isEan (hdigit hs') h')
      (fun c hc d hd => ?_) ho.reverse
    exact Check.digit_inj (hdigit hs c (List.mem_reverse.mp hc))
      (hdigit hs' d (List.mem_reverse.mp hd))

theorem not_swapped_of_passes (hs : ∀ c ∈ cs, isbn.isSymbol c) (hs' : ∀ c ∈ ds, isbn.isSymbol c)
    (hl : cs.length = 10) (h : isbn.passes cs) (h' : isbn.passes ds) : ¬Swapped cs ds := by
  intro hw
  have hl' : ds.length = 10 := hw.length_eq.symm.trans hl
  rw [passes, if_pos rfl, if_pos hl] at h
  rw [passes, if_pos rfl, if_pos hl'] at h'
  refine (sums_of_valid10 hs hl h).not_swapped (sums_of_valid10 hs' hl' h') ?_
    (fun c hc d hd => digit_inj_of_isSymbol (hs c hc) (hs' d hd)) hw
  intro i hi
  omega

/-- A product number comes of its symbols alone, and no text is one that has these but for one
symbol, or for the order of two neighbours in an ISBN-10. -/
theorem validate_mistyped (hk : kind ∈ [isbn, ean]) (hd : params.get "default" = .null)
    (h : kind.validate inner mode params (.text s) = .ok r) (mode' : Mode) (t : String) :
    (kind.symbols t = kind.symbols s → kind.validate inner mode' params (.text t) = .ok r) ∧
    (OneOff (kind.symbols s) (kind.symbols t) ∨
        kind = isbn ∧ (kind.symbols s).length = 10 ∧
          Swapped (kind.symbols s) (kind.symbols t) →
      ∃ m, kind.validate inner mode' params (.text t) = .error (.rejected m)) := by
  obtain ⟨m, hm⟩ := check_symbols hk inner mode params s
  obtain ⟨m', hm'⟩ := check_symbols hk inner mode' params t
  rw [validate_without_default hd, Check.settle_eq_ok, hm, Check.acceptChars,
    Check.ite_accept_eq_ok] at h
  obtain ⟨hp, rfl⟩ := h
  rw [validate_without_default hd, hm']
  constructor
  · intro he
    rw [he, if_pos hp]
    rfl
  · intro hdiff
    have hn : ¬kind.passes (kind.symbols t) := by
      intro hp'
      rcases hdiff with ho | ⟨rfl, hl, hw⟩
      · exact not_oneOff_of_passes hk (fun _ => isSymbol_of_mem) (fun _ => isSymbol_of_mem)
          hp hp' ho
      · exact not_swapped_of_passes (fun _ => isSymbol_of_mem) (fun _ => isSymbol_of_mem)
          hl hp hp' hw
    rw [if_neg hn]
    exact ⟨m', rfl⟩

/-- A wrong digit and two swapped neighbours, with other separators. -/
theorem validate_other_isbn :
    isbn.validate Check.noParts ⟨true, false⟩ [] (.text "0-8044-2957-x") =
        .ok ⟨.text "080442957X", .text "080442957X"⟩ ∧
      (∃ m, isbn.validate Check.noParts ⟨false, false⟩ [] (.text "ISBN 0.8044.2357.x") =
        .error (.rejected m)) ∧
      ∃ m, isbn.validate Check.noParts ⟨false, false⟩ [] (.text "0 8044 295X7") =
        .error (.rejected m) := by
  have h : isbn.validate Check.noParts ⟨true, false⟩ [] (.text "0-8044-2957-x") =
      .ok ⟨.text "080442957X", .text "080442957X"⟩ := rfl
  refine ⟨h, ?_, ?_⟩
  · have ho : OneOff "080442957X".toList "080442357X".toList :=
      .mk "080442".toList "57X".toList (x := '9') (y := '3') (by decide)
    exact (validate_mistyped (by decide) rfl h _ _).2 (.inl ho)
  · have hw : Swapped "080442957X".toList "08044295X7".toList :=
      .mk "08044295".toList [] (x := '7') (y := 'X') (by decide)
    exact (validate_mistyped (by decide) rfl h _ _).2 (.inr ⟨rfl, by decide, hw⟩)

end Kind
end Covenant
