import Covenant.Contract.Source
import Covenant.Proofs.Named
import Covenant.Proofs.Text

/-! Contracts in the compact notation are read as they are written. -/

namespace Covenant.Source

/-- A text with a backslash in front of each special character. -/
def escape (special cs : List Char) : List Char :=
  cs.flatMap fun c => if c ∈ special then ['\\', c] else [c]

/-- The ways to write a value: any value in quotes, and a trimmed one without quotes as it is. -/
inductive Written (value : List Char) : List Char → Prop
  | quoted : Written value ('"' :: escape ['\\', '"'] value ++ ['"'])
  | plain (ht : trim value = value) (hq : '"' ∉ value) : Written value (escape ['\\', ';'] value)

/-- Parameters as they are written behind a type. -/
inductive Writes : List (String × String) → List Char → Prop
  | nil : Writes [] []
  | cons (hv : Written value.toList form) (h : Writes params cs) :
      Writes ((name, value) :: params)
        (';' :: ' ' :: (name.toList ++ ':' :: ' ' :: (form ++ cs)))

/-- A name that can be written. -/
structure IsWritable (name : String) : Prop where
  ne_empty : name ≠ ""
  trimmed : trim name.toList = name.toList
  no_colon : ':' ∉ name.toList
  no_semicolon : ';' ∉ name.toList

/-- A name that is read as it is written. -/
structure IsName (name : String) : Prop where
  ne_empty : name ≠ ""
  trimmed : trim name.toList = name.toList
  no_colon : ':' ∉ name.toList
  no_semicolon : ';' ∉ name.toList
  canonical : Params.canonicalName name = name

theorem isName_iff : IsName name ↔ name ≠ "" ∧ trim name.toList = name.toList ∧
    ':' ∉ name.toList ∧ ';' ∉ name.toList ∧ Params.canonicalName name = name :=
  ⟨fun h => ⟨h.ne_empty, h.trimmed, h.no_colon, h.no_semicolon, h.canonical⟩,
    fun ⟨h, ht, hc, hs, hn⟩ => ⟨h, ht, hc, hs, hn⟩⟩

instance : DecidablePred IsName := fun _ => decidable_of_iff _ isName_iff.symm

theorem IsName.isWritable (h : IsName name) : IsWritable name :=
  ⟨h.ne_empty, h.trimmed, h.no_colon, h.no_semicolon⟩

def texts (params : List (String × String)) : Params := params.map fun p => (p.1, .text p.2)

/-- The parameters that are read for written ones. -/
def canonicalTexts (params : List (String × String)) : Params :=
  params.map fun p => (Params.canonicalName p.1, .text p.2)

theorem escape_cons (special : List Char) (c : Char) (cs : List Char) :
    escape special (c :: cs) =
      (if c ∈ special then ['\\', c] else [c]) ++ escape special cs := rfl

variable {acc : Params} {key : List Char} {pieces : List Piece}

theorem readParams_name_cons (hs : c ≠ ';') (hc : c ≠ ':') (chars rest : List Char) :
    readParams acc (.name chars) (c :: rest) = readParams acc (.name (c :: chars)) rest := by
  rw [readParams]
  · exact hs
  · exact hc

theorem readParams_plain_cons (hs : c ≠ ';') (hb : c ≠ '\\') (hq : c ≠ '"')
    (chars rest : List Char) :
    readParams acc (.plain key pieces chars) (c :: rest) =
      readParams acc (.plain key pieces (c :: chars)) rest := by
  rw [readParams]
  · exact hs
  · exact fun _ h => absurd h hb
  · exact fun _ h => absurd h hb
  · exact hq

theorem readParams_quoted_cons (hb : c ≠ '\\') (hq : c ≠ '"') (chars rest : List Char) :
    readParams acc (.quoted key pieces chars) (c :: rest) =
      readParams acc (.quoted key pieces (c :: chars)) rest := by
  rw [readParams]
  · exact fun _ h => absurd h hb
  · exact fun _ h => absurd h hb
  · exact hq

theorem readParams_name (hs : ';' ∉ key) (hc : ':' ∉ key) (chars rest : List Char)
    (hn : trim (chars.reverse ++ key) ≠ []) :
    readParams acc (.name chars) (key ++ ':' :: rest) =
      readParams acc (.plain (trim (chars.reverse ++ key)) [] []) rest := by
  induction key generalizing chars with
  | nil =>
    rw [List.append_nil] at hn ⊢
    exact if_neg (by simpa using hn)
  | cons c key ih =>
    rw [List.mem_cons, not_or] at hs hc
    have hr : chars.reverse ++ c :: key = (c :: chars).reverse ++ key := by simp
    rw [hr] at hn ⊢
    rw [List.cons_append, readParams_name_cons (Ne.symm hs.1) (Ne.symm hc.1)]
    exact ih hs.2 hc.2 (c :: chars) hn

theorem readParams_plain (hq : '"' ∉ cs) (chars rest : List Char) :
    readParams acc (.plain key pieces chars) (escape ['\\', ';'] cs ++ rest) =
      readParams acc (.plain key pieces (cs.reverse ++ chars)) rest := by
  induction cs generalizing chars with
  | nil => rfl
  | cons c cs ih =>
    rw [List.mem_cons, not_or] at hq
    rw [List.reverse_cons, List.append_assoc, List.singleton_append, ← ih hq.2, escape_cons]
    by_cases hb : c = '\\'
    · subst hb
      rfl
    · by_cases hs : c = ';'
      · subst hs
        rfl
      · rw [if_neg (by simp [hb, hs])]
        exact readParams_plain_cons hs hb (Ne.symm hq.1) chars _

theorem readParams_quoted (cs chars rest : List Char) :
    readParams acc (.quoted key pieces chars) (escape ['\\', '"'] cs ++ '"' :: rest) =
      readParams acc (.plain key (.quoted (chars.reverse ++ cs) :: pieces) []) rest := by
  induction cs generalizing chars with
  | nil =>
    rw [List.append_nil]
    rfl
  | cons c cs ih =>
    have hr : chars.reverse ++ c :: cs = (c :: chars).reverse ++ cs := by simp
    rw [hr, ← ih, escape_cons]
    by_cases hb : c = '\\'
    · subst hb
      rfl
    · by_cases hq : c = '"'
      · subst hq
        rfl
      · rw [if_neg (by simp [hb, hq])]
        exact readParams_quoted_cons hb hq chars _

theorem assemble_quoted (cs : List Char) :
    assemble [.plain [' '], .quoted cs, .plain []] = cs :=
  List.append_nil cs

/-- A value without quotes is trimmed. -/
theorem assemble_plain (cs : List Char) : assemble [.plain cs] = trim cs := by
  by_cases h : cs.all isBlank
  · have ht : trim cs = [] := trim_eq_nil_iff.mpr (List.all_eq_true.mp h)
    simp [assemble, onHead, Piece.isBlankPlain, h, ht]
  · have hl : (trimLeft cs).all isBlank = false := by
      rw [← Bool.not_eq_true]
      intro hl
      have ht : trim (trimLeft cs) = [] := trim_eq_nil_iff.mpr (List.all_eq_true.mp hl)
      rw [trim_trimLeft] at ht
      exact h (List.all_eq_true.mpr (trim_eq_nil_iff.mp ht))
    simp [assemble, onHead, Piece.isBlankPlain, h, hl, Piece.trimLeft, Piece.trimRight, Piece.chars,
      trim]

/-- A value is read up to its end, behind the blank that follows its name. -/
theorem readParams_value (acc : Params) (key : List Char) (hw : Written value form)
    (rest : List Char) :
    ∃ pieces chars, readParams acc (.plain key [] []) (' ' :: (form ++ rest)) =
        readParams acc (.plain key pieces chars) rest ∧
      assemble (.plain chars.reverse :: pieces).reverse = value := by
  have hb : readParams acc (.plain key [] []) (' ' :: (form ++ rest)) =
      readParams acc (.plain key [] [' ']) (form ++ rest) :=
    readParams_plain_cons (by decide) (by decide) (by decide) [] _
  rw [hb]
  cases hw with
  | quoted =>
    refine ⟨[.quoted value, .plain [' ']], [], ?_, assemble_quoted value⟩
    have hq := @readParams_quoted acc key [.plain [' ']] value [] rest
    rw [List.cons_append, List.cons_append, List.append_assoc, List.singleton_append]
    exact hq
  | plain hv hq =>
    refine ⟨[], value.reverse ++ [' '], readParams_plain hq [' '] rest, ?_⟩
    have hr : (value.reverse ++ [' ']).reverse = ' ' :: value := by simp
    rw [List.reverse_singleton, hr, assemble_plain, trim, trimLeft_cons_of_blank (by decide)]
    exact hv

/-- A parameter is read up to its end, and its value is stored under its name. -/
theorem readParams_param (acc : Params) (hn : IsWritable name) (hw : Written value.toList form)
    (rest : List Char) :
    ∃ pieces chars,
      readParams acc (.name []) (' ' :: (name.toList ++ ':' :: ' ' :: (form ++ rest))) =
        readParams acc (.plain name.toList pieces chars) rest ∧
      store acc name.toList pieces chars =
        acc.put (Params.canonicalName name) (.text value) := by
  have ht : trim ([' '].reverse ++ name.toList) = name.toList := by
    rw [List.reverse_singleton, List.singleton_append, trim, trimLeft_cons_of_blank (by decide)]
    exact hn.trimmed
  have hne : trim ([' '].reverse ++ name.toList) ≠ [] := by
    rw [ht]
    exact fun he => hn.ne_empty (String.toList_eq_nil_iff.mp he)
  obtain ⟨pieces, chars, hr, hv⟩ := readParams_value acc name.toList hw rest
  refine ⟨pieces, chars, ?_, ?_⟩
  · rw [readParams_name_cons (by decide) (by decide),
      readParams_name hn.no_semicolon hn.no_colon [' '] _ hne, ht, hr]
  · rw [store, hv, String.ofList_toList, String.ofList_toList]

variable {params : List (String × String)}

/-- Behind a value, the parameters that follow are read one after the other. -/
theorem Writes.readParams (h : Writes params cs) (hn : ∀ p ∈ params, IsWritable p.1)
    (acc : Params) (key : List Char) (pieces : List Piece) (chars : List Char) :
    readParams acc (.plain key pieces chars) cs =
      .ok ((store acc key pieces chars).update (canonicalTexts params)) := by
  induction h generalizing acc key pieces chars with
  | nil => rfl
  | cons hv h ih =>
    obtain ⟨hname, hn⟩ := List.forall_mem_cons.mp hn
    obtain ⟨pieces', chars', hr, hs⟩ := readParams_param _ hname hv _
    show Source.readParams (store acc key pieces chars) (.name []) _ = _
    rw [hr, ih hn, hs]
    rfl

theorem bne_of_notMem {c : Char} {cs : List Char} (h : c ∉ cs) : ∀ d ∈ cs, (d != c) = true := by
  intro d hd
  rw [bne_iff_ne]
  exact fun he => h (he ▸ hd)

theorem read_of_notMem {text : String} (hs : ';' ∉ text.toList) :
    read text = .ok [("type", .text (onChars trim text))] := by
  rw [read, List.takeWhile_eq_self_iff.mpr (bne_of_notMem hs),
    List.dropWhile_eq_nil_iff.mpr (bne_of_notMem hs)]
  rfl

theorem read_of_toList {text : String} {head tail : List Char} (hs : ';' ∉ head)
    (h : text.toList = head ++ ';' :: tail) :
    read text = readParams [("type", .text (String.ofList (trim head)))] (.name []) tail := by
  rw [read, h, List.takeWhile_append_of_pos (bne_of_notMem hs),
    List.dropWhile_append_of_pos (bne_of_notMem hs), List.takeWhile_cons_of_neg (by decide),
    List.dropWhile_cons_of_neg (by decide), List.append_nil]

/-- The parameters behind a type are read one after the other. -/
theorem Writes.read_canonical (h : Writes params cs) (hn : ∀ p ∈ params, IsWritable p.1)
    (hs : ';' ∉ spec.toList) :
    read (spec ++ String.ofList cs) =
      .ok (Named.update [("type", .text (onChars trim spec))] (canonicalTexts params)) := by
  cases h with
  | nil =>
    rw [String.ofList_nil, String.append_empty]
    exact read_of_notMem hs
  | cons hv h =>
    obtain ⟨hname, hn⟩ := List.forall_mem_cons.mp hn
    obtain ⟨pieces, chars, hr, hs'⟩ :=
      readParams_param [("type", .text (onChars trim spec))] hname hv _
    rw [read_of_toList hs (by rw [String.toList_append, String.toList_ofList])]
    refine hr.trans ((h.readParams hn _ _ pieces chars).trans ?_)
    rw [hs']
    rfl

theorem Writes.read (h : Writes params cs) (hn : ∀ p ∈ params, IsName p.1)
    (hs : ';' ∉ spec.toList) :
    read (spec ++ String.ofList cs) =
      .ok (Named.update [("type", .text (onChars trim spec))] (texts params)) := by
  have hc : canonicalTexts params = texts params :=
    List.map_congr_left fun p hp => by rw [(hn p hp).canonical]
  rw [h.read_canonical (fun p hp => (hn p hp).isWritable) hs, hc]

/-- A contract is read as it is written: its type, and the parameters in their order. -/
theorem read_written (ht : trim spec.toList = spec.toList) (hs : ';' ∉ spec.toList)
    (hn : ∀ p ∈ params, IsName p.1) (hd : ("type" :: params.map (·.1)).Nodup)
    (h : Writes params cs) :
    read (spec ++ String.ofList cs) = .ok (("type", .text spec) :: texts params) := by
  have hu : Named.update [("type", .text spec)] (texts params) =
      ("type", .text spec) :: texts params := by
    refine Named.update_of_nodup ?_
    simpa [texts, Function.comp_def] using hd
  have htype : onChars trim spec = spec := by
    rw [onChars, ht, String.ofList_toList]
  rw [h.read hn hs, htype, hu]

theorem read_default_in_quotes :
    read "string; minLen: 2; default: \" a;\\\"b\\\\\"" =
      .ok [("type", .text "string"), ("minLen", .text "2"), ("default", .text " a;\"b\\")] := by
  have h : Writes [("minLen", "2"), ("default", " a;\"b\\")] _ :=
    .cons (.plain (by decide) (by decide)) (.cons .quoted .nil)
  have hr : read ("string" ++ String.ofList _) = _ :=
    read_written (by decide) (by decide) (by decide) (by decide) h
  exact hr

end Covenant.Source
