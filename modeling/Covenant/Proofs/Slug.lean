import Covenant.Proofs.Text
import Covenant.Slug
import Mathlib.Data.List.Chain

/-! The slug of a text is its own slug. -/

namespace Covenant.Slug

/-- The characters of slugs, which may have underscores or not. -/
def isNeat (underscores : Bool) (c : Char) : Bool :=
  isAsciiLower c || isAsciiDigit c || c == '-' || (underscores && c == '_')

/-- Characters of slugs with single dashes between them, and none at the ends. -/
structure Neat (underscores : Bool) (cs : List Char) : Prop where
  chars : ∀ c ∈ cs, isNeat underscores c
  single : cs.IsChain fun c d => ¬(c = '-' ∧ d = '-')
  first : ∀ c ∈ cs.head?, ¬isEdge c
  last : ∀ c ∈ cs.getLast?, ¬isEdge c

/-- The form of a slug. One dash stands for a text of which nothing is kept. -/
def IsNormal (underscores : Bool) (cs : List Char) : Prop :=
  cs = ['-'] ∨ cs ≠ [] ∧ Neat underscores cs

variable {u : Bool} {c d : Char} {cs : List Char}

theorem IsNormal.ne_nil (h : IsNormal u cs) : cs ≠ [] := by
  rcases h with rfl | h
  · exact List.cons_ne_nil _ _
  · exact h.1

theorem IsNormal.chars (h : IsNormal u cs) : ∀ c ∈ cs, isNeat u c := by
  rcases h with rfl | h
  · exact List.forall_mem_singleton.mpr rfl
  · exact h.2.chars

section Characters

theorem isNeat_lowerAscii (h : isKept u c) : isNeat u (lowerAscii c) := by
  simp only [isKept, isAsciiLetter, isAsciiDigit, isAsciiUpper, isAsciiLower, Bool.or_eq_true,
    Bool.and_eq_true, decide_eq_true_eq, beq_iff_eq] at h
  rcases h with h | ⟨rfl, rfl⟩
  · simp only [isNeat, isAsciiLower, isAsciiDigit, toNat_lowerAscii, isAsciiUpper,
      Bool.or_eq_true, Bool.and_eq_true, decide_eq_true_eq]
    left
    left
    split <;> omega
  · rfl

theorem isKept_or_dash (h : isNeat u c) : isKept u c ∨ c = '-' := by
  simp only [isNeat, isAsciiLower, isAsciiDigit, Bool.or_eq_true, Bool.and_eq_true,
    decide_eq_true_eq, beq_iff_eq] at h
  simp only [isKept, isAsciiLetter, isAsciiDigit, isAsciiUpper, isAsciiLower, Bool.or_eq_true,
    Bool.and_eq_true, decide_eq_true_eq, beq_iff_eq]
  tauto

theorem not_isAsciiUpper_of_isNeat (h : isNeat u c) : ¬isAsciiUpper c := by
  simp only [isNeat, isAsciiLower, isAsciiDigit, Bool.or_eq_true, Bool.and_eq_true,
    decide_eq_true_eq, beq_iff_eq] at h
  simp only [isAsciiUpper, Bool.and_eq_true, decide_eq_true_eq]
  rcases h with (h | rfl) | ⟨_, rfl⟩
  · omega
  · decide
  · decide

theorem ascii_of_isNeat (h : isNeat u c) : c.toNat < 128 := by
  simp only [isNeat, isAsciiLower, isAsciiDigit, Bool.or_eq_true, Bool.and_eq_true,
    decide_eq_true_eq, beq_iff_eq] at h
  rcases h with (h | rfl) | ⟨_, rfl⟩
  · omega
  · decide
  · decide

theorem asciiPart_of_ascii (h : c.toNat < 128) : asciiPart c = [c] := if_pos h

/-- A character of slugs is not changed. -/
theorem kept_or_dash_of_isNeat (h : isNeat u c) :
    (if isKept u c then lowerAscii c else '-') = c := by
  split
  · exact if_neg (not_isAsciiUpper_of_isNeat h)
  · rename_i hk
    exact ((isKept_or_dash h).resolve_left hk).symm

end Characters

section Collapse

theorem collapse_cons (c : Char) (cs : List Char) :
    collapse (c :: cs) =
      if c = '-' ∧ '-' ∈ (collapse cs).head? then collapse cs else c :: collapse cs := by
  rw [collapse]
  split
  · rename_i rest he
    rw [he]
    simp
  · rename_i hne
    rw [if_neg]
    rintro ⟨_, hd⟩
    exact hne _ (List.eq_cons_of_mem_head? hd)

theorem collapse_sublist (cs : List Char) : (collapse cs).Sublist cs := by
  induction cs with
  | nil => exact .slnil
  | cons c cs ih =>
    rw [collapse_cons]
    split
    · exact ih.cons c
    · exact ih.cons_cons c

theorem isChain_collapse (cs : List Char) :
    (collapse cs).IsChain fun c d => ¬(c = '-' ∧ d = '-') := by
  induction cs with
  | nil => exact .nil
  | cons c cs ih =>
    rw [collapse_cons]
    split
    · exact ih
    · rename_i hn
      refine List.isChain_cons.mpr ⟨?_, ih⟩
      rintro d hd ⟨hc, rfl⟩
      exact hn ⟨hc, hd⟩

theorem collapse_of_isChain (h : cs.IsChain fun c d => ¬(c = '-' ∧ d = '-')) :
    collapse cs = cs := by
  induction cs with
  | nil => rfl
  | cons c cs ih =>
    obtain ⟨hd, h⟩ := List.isChain_cons.mp h
    rw [collapse_cons, ih h, if_neg]
    rintro ⟨hc, hm⟩
    exact hd '-' hm ⟨hc, rfl⟩

end Collapse

section Edges

theorem stripEdges_eq (cs : List Char) :
    stripEdges cs = (cs.dropWhile isEdge).rdropWhile isEdge := rfl

theorem stripEdges_isInfix (cs : List Char) : stripEdges cs <:+: cs := by
  have hright : stripEdges cs <+: cs.dropWhile isEdge := List.rdropWhile_prefix isEdge _
  exact hright.isInfix.trans (List.dropWhile_suffix isEdge).isInfix

theorem not_isEdge_head (h : c ∈ (stripEdges cs).head?) : ¬isEdge c := by
  obtain ⟨rest, hr⟩ := List.rdropWhile_prefix isEdge (cs.dropWhile isEdge)
  rw [← stripEdges_eq] at hr
  have hd := List.head?_dropWhile_not isEdge cs
  rw [← hr, List.head?_append_of_ne_nil _ (by rintro he; rw [he] at h; cases h)] at hd
  rw [Option.mem_def.mp h] at hd
  exact Bool.eq_false_iff.mp hd

theorem not_isEdge_last (h : c ∈ (stripEdges cs).getLast?) : ¬isEdge c := by
  obtain ⟨hne, rfl⟩ := List.mem_getLast?_eq_getLast h
  exact List.rdropWhile_last_not _ _ hne

end Edges

/-- Whatever is not kept in a slug becomes a dash. -/
def dashed (underscores : Bool) (cs : List Char) : List Char :=
  cs.map fun c => if isKept underscores c then lowerAscii c else '-'

theorem ofAscii_eq (underscores : Bool) (cs : List Char) :
    ofAscii underscores cs =
      if stripEdges (collapse (dashed underscores cs)) = [] then ['-']
      else stripEdges (collapse (dashed underscores cs)) := by
  unfold ofAscii
  dsimp only
  rw [← dashed]
  split
  · rename_i he
    rw [he, if_pos rfl]
  · rename_i hne
    rw [if_neg hne]

theorem isNeat_of_mem_dashed (h : c ∈ dashed u cs) : isNeat u c := by
  obtain ⟨d, _, rfl⟩ := List.mem_map.mp h
  split
  · rename_i hk
    exact isNeat_lowerAscii hk
  · rfl

/-- No later step brings back what an earlier one took away: the ends are stripped off a text
without two dashes in a row, and what is left is part of it. -/
theorem neat_stripEdges (h : ∀ c ∈ cs, isNeat u c) : Neat u (stripEdges (collapse cs)) where
  chars c hc := h c ((collapse_sublist cs).subset ((stripEdges_isInfix _).subset hc))
  single := List.IsChain.infix (isChain_collapse cs) (stripEdges_isInfix _)
  first _ := not_isEdge_head
  last _ := not_isEdge_last

theorem isNormal_ofAscii (underscores : Bool) (cs : List Char) :
    IsNormal underscores (ofAscii underscores cs) := by
  rw [ofAscii_eq]
  split
  · exact .inl rfl
  · rename_i hne
    exact .inr ⟨hne, neat_stripEdges fun _ => isNeat_of_mem_dashed⟩

theorem Neat.ofAscii (h : Neat u cs) (hne : cs ≠ []) : ofAscii u cs = cs := by
  have hd : dashed u cs = cs :=
    (List.map_congr_left fun c hc => kept_or_dash_of_isNeat (h.chars c hc)).trans
      (List.map_id cs)
  have hs : stripEdges cs = cs := rdropWhile_dropWhile_eq_self h.first h.last
  rw [ofAscii_eq, hd, collapse_of_isChain h.single, hs, if_neg hne]

theorem IsNormal.ofAscii (h : IsNormal u cs) : Slug.ofAscii u cs = cs := by
  rcases h with rfl | ⟨hne, h⟩
  · cases u <;> rfl
  · exact h.ofAscii hne

theorem ofText_eq (hne : cs ≠ []) (underscores : Bool) :
    (ofText (String.ofList cs) underscores).toList =
      ofAscii underscores (cs.flatMap asciiPart) := by
  rw [ofText, String.toList_ofList]
  split
  · exact absurd rfl hne
  · exact String.toList_ofList

theorem IsNormal.ofText (h : IsNormal u cs) : (ofText (String.ofList cs) u).toList = cs := by
  have hp : cs.flatMap asciiPart = cs := by
    rw [List.flatMap_congr fun c hc => asciiPart_of_ascii (ascii_of_isNeat (h.chars c hc))]
    exact List.flatMap_singleton' cs
  rw [ofText_eq h.ne_nil, hp, h.ofAscii]

theorem isNormal_ofText (hne : s ≠ "") (underscores : Bool) :
    IsNormal underscores (ofText s underscores).toList := by
  have hs : s.toList ≠ [] := fun he => hne (String.toList_eq_nil_iff.mp he)
  rw [← String.ofList_toList (s := s), ofText_eq hs]
  exact isNormal_ofAscii _ _

theorem ofText_ofText (s : String) (underscores : Bool) :
    ofText (ofText s underscores) underscores = ofText s underscores := by
  by_cases hs : s = ""
  · rw [hs]
    rfl
  · have h := (isNormal_ofText hs underscores).ofText
    rw [String.ofList_toList] at h
    exact String.toList_inj.mp h

/-- The slug of a text is longer than the text only where a character stands for several others. -/
theorem length_ofAscii_le (hne : cs ≠ []) (h : ∀ c ∈ cs, (asciiPart c).length ≤ 1)
    (underscores : Bool) : (ofAscii underscores (cs.flatMap asciiPart)).length ≤ cs.length := by
  have hf : (cs.flatMap asciiPart).length ≤ cs.length :=
    (length_flatMap_le h).trans_eq (Nat.one_mul _)
  have hs : (stripEdges (collapse (dashed underscores (cs.flatMap asciiPart)))).length ≤
      (cs.flatMap asciiPart).length := by
    refine (stripEdges_isInfix _).length_le.trans ((collapse_sublist _).length_le.trans_eq ?_)
    exact List.length_map _
  rw [ofAscii_eq]
  split
  · exact List.length_pos_iff.mpr hne
  · exact hs.trans hf

end Covenant.Slug
