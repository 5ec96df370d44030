import Covenant.Proofs.Contract.Params
import Covenant.Proofs.Contract.Source
import Mathlib.Algebra.Group.Nat.Even
import Mathlib.Tactic.Tauto

/-! A contract in the compact notation is read one segment after the other. -/

namespace Covenant

namespace Source

/-- How many backslashes a text ends in. -/
def endBackslashes (cs : List Char) : Nat := (cs.reverse.takeWhile (· == '\\')).length

section Backslashes

variable {c d : Char} {cs : List Char}

theorem endBackslashes_of_all (h : ∀ c ∈ cs, c = '\\') : endBackslashes cs = cs.length := by
  rw [endBackslashes, List.takeWhile_eq_self_iff.mpr, List.length_reverse]
  simpa using h

theorem endBackslashes_cons_of_not_all (h : ¬∀ d ∈ c :: cs, d = '\\') :
    endBackslashes (c :: cs) = endBackslashes cs := by
  rw [endBackslashes, endBackslashes, List.reverse_cons, List.takeWhile_append]
  split
  · rename_i hl
    have hself := (List.takeWhile_prefix (· == '\\')).eq_of_length hl
    have hcs : ∀ d ∈ cs, d = '\\' := by
      simpa using List.takeWhile_eq_self_iff.mp hself
    have hc : c ≠ '\\' := fun hc => h (List.forall_mem_cons.mpr ⟨hc, hcs⟩)
    rw [List.takeWhile_cons_of_neg (by simpa using hc), List.append_nil, hself]
  · rfl

theorem endBackslashes_cons_of_ne (h : c ≠ '\\') (cs : List Char) :
    endBackslashes (c :: cs) = endBackslashes cs :=
  endBackslashes_cons_of_not_all fun hall => h (hall c (by simp))

theorem endBackslashes_cons_cons_of_ne (h : d ≠ '\\') (c : Char) (cs : List Char) :
    endBackslashes (c :: d :: cs) = endBackslashes (d :: cs) :=
  endBackslashes_cons_of_not_all fun hall => h (hall d (by simp))

theorem endBackslashes_of_notMem (h : '\\' ∉ cs) : endBackslashes cs = 0 := by
  induction cs with
  | nil => rfl
  | cons c cs ih =>
    rw [List.mem_cons, not_or] at h
    rw [endBackslashes_cons_of_ne (Ne.symm h.1), ih h.2]

theorem endBackslashes_append_cons (h : c ≠ '\\') (before cs : List Char) :
    endBackslashes (before ++ c :: cs) = endBackslashes cs := by
  induction before with
  | nil => exact endBackslashes_cons_of_ne h cs
  | cons d before ih =>
    rw [List.cons_append, endBackslashes_cons_of_not_all, ih]
    exact fun hall => h (hall c (by simp))

theorem even_endBackslashes_pair :
    Even (endBackslashes ('\\' :: '\\' :: cs)) ↔ Even (endBackslashes cs) := by
  by_cases hall : ∀ d ∈ cs, d = '\\'
  · have hpair : ∀ d ∈ '\\' :: '\\' :: cs, d = '\\' :=
      List.forall_mem_cons.mpr ⟨rfl, List.forall_mem_cons.mpr ⟨rfl, hall⟩⟩
    rw [endBackslashes_of_all hpair, endBackslashes_of_all hall, List.length_cons,
      List.length_cons]
    simp [Nat.even_add_one]
  · have hcons : ¬∀ d ∈ '\\' :: cs, d = '\\' := fun h => hall (List.forall_mem_cons.mp h).2
    rw [endBackslashes_cons_of_not_all fun h => hcons (List.forall_mem_cons.mp h).2,
      endBackslashes_cons_of_not_all hcons]

/-- A text that leaves the character behind it as it is: it ends in whole pairs of backslashes, or it
has nothing else, where no backslash may stand at the end. -/
def Closed : Stage → List Char → Prop
  | .plain _ _ _, cs => Even (endBackslashes cs)
  | _, cs => Even (endBackslashes cs) ∨ ∀ c ∈ cs, c = '\\'

theorem closed_of_even (h : Even (endBackslashes cs)) (stage : Stage) : Closed stage cs := by
  cases stage with
  | plain => exact h
  | name => exact .inl h
  | quoted => exact .inl h

/-- A character that is no backslash parts what comes before from what comes after. -/
theorem Closed.even (h : Closed stage (c :: cs)) (hc : c ≠ '\\') :
    Even (endBackslashes cs) := by
  rw [← endBackslashes_cons_of_ne hc]
  cases stage with
  | plain => exact h
  | name => exact h.resolve_right fun hall => hc (hall c (by simp))
  | quoted => exact h.resolve_right fun hall => hc (hall c (by simp))

theorem tail_of_even_or (h : Even (endBackslashes (c :: cs)) ∨ ∀ d ∈ c :: cs, d = '\\') :
    Even (endBackslashes cs) ∨ ∀ d ∈ cs, d = '\\' := by
  by_cases hall : ∀ d ∈ cs, d = '\\'
  · exact .inr hall
  · refine .inl ?_
    rcases h with h | h
    · rwa [endBackslashes_cons_of_not_all fun h => hall (List.forall_mem_cons.mp h).2] at h
    · exact absurd (List.forall_mem_cons.mp h).2 hall

end Backslashes

variable {acc es params : Params} {stage : Stage} {cs : List Char}

theorem nodup_store (h : (es.map (·.1)).Nodup) (key : List Char) (pieces : List Piece)
    (chars : List Char) : ((store es key pieces chars).map (·.1)).Nodup :=
  Named.nodup_put h _ _

theorem store_update (h : (es.map (·.1)).Nodup) (acc : Params) (key : List Char)
    (pieces : List Piece) (chars : List Char) :
    store (acc.update es) key pieces chars = acc.update (store es key pieces chars) :=
  (Named.update_put h acc _ _).symm

/-- What has been read before only matters for where the parameters are put in. -/
theorem readParams_update (h : (es.map (·.1)).Nodup) (acc : Params) (stage : Stage)
    (cs : List Char) :
    readParams (acc.update es) stage cs = (readParams es stage cs).map acc.update := by
  fun_induction readParams es stage cs
  case case1 es chars =>
    rw [readParams]
    cases skip chars with
    | error f => rfl
    | ok => rfl
  case case2 es chars rest ih =>
    rw [readParams, ih h]
    cases skip chars with
    | error f => rfl
    | ok => rfl
  case case3 es chars rest name hn => exact if_pos hn
  case case4 es chars rest name hn ih => exact (if_neg hn).trans (ih h)
  case case5 es chars c rest hs hc ih =>
    rw [readParams_name_cons hs hc]
    exact ih h
  case case6 es key pieces chars =>
    rw [readParams, store_update h]
    rfl
  case case7 es key pieces chars rest ih =>
    rw [readParams, store_update h]
    exact ih (nodup_store h key pieces chars)
  case case11 es key pieces chars c rest hs hb hb' hq ih =>
    rw [readParams]
    · exact ih h
    · exact hs
    · exact hb
    · exact hb'
    · exact hq
  case case12 => rfl
  case case16 es key pieces chars c rest hb hb' hq ih =>
    rw [readParams]
    · exact ih h
    · exact hb
    · exact hb'
    · exact hq
  -- What is left goes on reading, with the parameters as they are.
  all_goals
    rename_i ih
    exact ih h

/-- In front of a semicolon, the next character is the text's own, unless the text is at its end. -/
theorem exists_of_append_semicolon (hne : c = ';' → cs ≠ []) (h : cs ++ ';' :: rest = c :: tail) :
    ∃ tail', cs = c :: tail' := by
  cases cs with
  | nil =>
    cases h
    exact absurd rfl (hne rfl)
  | cons d cs =>
    cases h
    exact ⟨cs, rfl⟩

/-- Behind a text that has been read to its end, a semicolon starts the next segment. -/
theorem readParams_append (hc : Closed stage cs) (h : readParams acc stage cs = .ok params)
    (rest : List Char) :
    readParams acc stage (cs ++ ';' :: rest) = readParams params (.name []) rest := by
  fun_induction readParams acc stage cs with
  | case1 acc chars =>
    obtain ⟨_, hk, h⟩ := bind_eq_ok.mp h
    cases h
    rw [List.nil_append, readParams, hk]
    rfl
  | case2 acc chars cs ih =>
    obtain ⟨_, hk, h⟩ := bind_eq_ok.mp h
    rw [List.cons_append, readParams, hk]
    exact ih (closed_of_even (hc.even (by decide)) _) h
  | case3 acc chars cs name hn => cases h
  | case4 acc chars cs name hn ih =>
    exact (if_neg hn).trans (ih (hc.even (by decide)) h)
  | case5 acc chars c cs hs hcolon ih =>
    rw [List.cons_append, readParams_name_cons hs hcolon]
    exact ih (tail_of_even_or hc) h
  | case6 acc key pieces chars =>
    cases h
    rfl
  | case7 acc key pieces chars cs ih =>
    exact ih (closed_of_even (hc.even (by decide)) _) h
  | case8 acc key pieces chars cs ih =>
    have he : Even (endBackslashes cs) := by
      rwa [Closed, endBackslashes_cons_cons_of_ne (by decide),
        endBackslashes_cons_of_ne (by decide)] at hc
    exact ih he h
  | case9 acc key pieces chars cs ih => exact ih (even_endBackslashes_pair.mp hc) h
  | case10 acc key pieces chars cs ih =>
    exact ih (closed_of_even (hc.even (by decide)) _) h
  | case11 acc key pieces chars c cs hs hb hb' hq ih =>
    -- A backslash that escapes nothing is not the last character.
    have hne (hx : c = '\\') : cs ≠ [] := by
      rintro rfl
      exact absurd (hx ▸ hc) (by decide : ¬Even (endBackslashes ['\\']))
    rw [List.cons_append, readParams]
    · refine ih ?_ h
      by_cases hx : c = '\\'
      · obtain ⟨d, cs, rfl⟩ := List.exists_cons_of_ne_nil (hne hx)
        have hd : d ≠ '\\' := fun he => hb' cs hx (he ▸ rfl)
        rwa [Closed, endBackslashes_cons_cons_of_ne hd] at hc
      · exact hc.even hx
    · exact hs
    · intro r hx he
      obtain ⟨r', hr⟩ := exists_of_append_semicolon (fun _ => hne hx) he
      exact hb r' hx hr
    · intro r hx he
      obtain ⟨r', hr⟩ := exists_of_append_semicolon (fun _ => hne hx) he
      exact hb' r' hx hr
    · exact hq
  | case12 acc key pieces chars => cases h
  | case13 acc key pieces chars cs ih =>
    have he : Closed (.quoted key pieces chars) ('"' :: cs) := tail_of_even_or hc
    exact ih (closed_of_even (he.even (by decide)) _) h
  | case14 acc key pieces chars cs ih => exact ih (tail_of_even_or (tail_of_even_or hc)) h
  | case15 acc key pieces chars cs ih => exact ih (hc.even (by decide)) h
  | case16 acc key pieces chars c cs hb hb' hq ih =>
    rw [List.cons_append, readParams]
    · exact ih (tail_of_even_or hc) h
    · intro r hx he
      obtain ⟨r', hr⟩ := exists_of_append_semicolon (fun hq => absurd hq (by decide)) he
      exact hb r' hx hr
    · intro r hx he
      obtain ⟨r', hr⟩ := exists_of_append_semicolon (fun hq => absurd hq (by decide)) he
      exact hb' r' hx hr
    · exact hq

/-- The parameters that a text adds behind a type and a semicolon. -/
def added (text : String) : Except Failure Params := readParams [] (.name []) text.toList

theorem readParams_eq_added (acc : Params) (text : String) :
    readParams acc (.name []) text.toList = (added text).map acc.update :=
  readParams_update Params.Canonical.nil.nodup acc (.name []) text.toList

variable {s : String}

/-- Behind a bare type, a text adds its parameters. -/
theorem read_type {spec : String} (hs : ';' ∉ spec.toList) (text : String) :
    read (spec ++ ";" ++ text) =
      (added text).map (Named.update [("type", .text (onChars trim spec))]) := by
  have h : (spec ++ ";" ++ text).toList = spec.toList ++ ';' :: text.toList := by
    rw [String.toList_append, String.toList_append, List.append_assoc]
    rfl
  rw [read_of_toList hs h, readParams_eq_added]
  rfl

/-- Behind a contract, a text adds its parameters as behind a bare type. -/
theorem read_append (h : read s = .ok params) (he : Even (endBackslashes s.toList))
    (text : String) : read (s ++ ";" ++ text) = (added text).map params.update := by
  by_cases hs : ';' ∈ s.toList
  · obtain ⟨head, tail, hcs, hhead⟩ := List.eq_append_cons_of_mem hs
    rw [read_of_toList hhead hcs] at h
    rw [hcs, endBackslashes_append_cons (by decide)] at he
    have hall : (s ++ ";" ++ text).toList = head ++ ';' :: (tail ++ ';' :: text.toList) := by
      rw [String.toList_append, String.toList_append, hcs, List.append_assoc, List.append_assoc]
      rfl
    rw [read_of_toList hhead hall, readParams_append (closed_of_even he _) h,
      readParams_eq_added]
  · rw [read_of_notMem hs] at h
    cases h
    exact read_type hs text

theorem added_blank (h : ∀ c ∈ blank.toList, isBlank c) : added blank = .ok [] := by
  have hread (cs chars : List Char) (hb : ∀ c ∈ cs, isBlank c) (hc : ∀ c ∈ chars, isBlank c) :
      readParams [] (.name chars) cs = .ok [] := by
    induction cs generalizing chars with
    | nil =>
      have ht : trim chars.reverse = [] :=
        trim_eq_nil_iff.mpr fun c hm => hc c (List.mem_reverse.mp hm)
      rw [readParams, skip, ht]
      rfl
    | cons c cs ih =>
      obtain ⟨hcb, hb⟩ := List.forall_mem_cons.mp hb
      have hs : c ≠ ';' := by
        rintro rfl
        exact absurd hcb (by decide)
      have hcolon : c ≠ ':' := by
        rintro rfl
        exact absurd hcb (by decide)
      rw [readParams_name_cons hs hcolon]
      exact ih (c :: chars) hb (List.forall_mem_cons.mpr ⟨hcb, hc⟩)
  exact hread blank.toList [] h (List.forall_mem_nil _)

theorem added_append (hb : ∀ c ∈ blank.toList, isBlank c) (text : String) :
    added (blank ++ ";" ++ text) = added text := by
  have hall : (blank ++ ";" ++ text).toList = blank.toList ++ ';' :: text.toList := by
    rw [String.toList_append, String.toList_append, List.append_assoc]
    rfl
  have he : Even (endBackslashes blank.toList) := by
    rw [endBackslashes_of_notMem fun hm => absurd (hb _ hm) (by decide)]
    exact Even.zero
  rw [added, hall, readParams_append (closed_of_even he _) (added_blank hb)]
  rfl

/-- A contract in the compact notation is read segment by segment: what follows it adds the same
parameters, or fails in the same way, as behind a bare type. Of a parameter that is given again the
later value counts, and a blank segment adds nothing. -/
theorem read_segments (h : read s = .ok params) (he : Even (endBackslashes s.toList))
    (text : String) :
    (∀ f, read (s ++ ";" ++ text) = .error f ↔ read ("x;" ++ text) = .error f) ∧
      (∀ spec : String, ';' ∉ spec.toList → read (spec ++ ";" ++ text) =
        (added text).map (Named.update [("type", .text (onChars trim spec))])) ∧
      read (s ++ ";" ++ text) = (added text).map params.update ∧
      (∀ entries, added text = .ok entries → ∀ name,
        (params.update entries).get? name = (entries.get? name).or (params.get? name)) ∧
      ∀ blank : String, (∀ c ∈ blank.toList, isBlank c) → read (s ++ ";" ++ blank) = .ok params ∧
        read (s ++ ";" ++ blank ++ ";" ++ text) = read (s ++ ";" ++ text) := by
  refine ⟨fun f => ?_, fun _ => (read_type · text), read_append h he text, ?_, ?_⟩
  · have hx : read ("x;" ++ text) = _ := @read_type "x" (by decide) text
    rw [hx, read_append h he, map_eq_error, map_eq_error]
  · intro entries ha name
    exact Named.get?_update (canonical_of_readParams Params.Canonical.nil ha).nodup params name
  · intro blank hb
    refine ⟨?_, ?_⟩
    · rw [read_append h he, added_blank hb]
      rfl
    · have hall : s ++ ";" ++ blank ++ ";" ++ text = s ++ ";" ++ (blank ++ ";" ++ text) := by
        simp only [String.append_assoc]
      rw [hall, read_append h he, added_append hb, ← read_append h he]

theorem read_min_again :
    read "int; min: \"1;\\\"\"; max: 9\\\\; \n; min: 2" =
      .ok [("type", .text "int"), ("min", .text "2"), ("max", .text "9\\")] := by
  have h : read "int; min: \"1;\\\"\"; max: 9\\\\" =
      .ok [("type", .text "int"), ("min", .text "1;\""), ("max", .text "9\\")] := rfl
  obtain ⟨_, _, hread, _, hblank⟩ := read_segments h (by decide) " min: 2"
  have hall := (hblank " \n" (List.all_eq_true.mp rfl)).2
  rw [hread] at hall
  exact hall

end Source
end Covenant
