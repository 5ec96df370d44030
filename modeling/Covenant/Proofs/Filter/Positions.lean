import Covenant.Proofs.Check.Default
import Covenant.Proofs.Filter.Rest
import Covenant.Proofs.Text
import Covenant.Record

/-! The contracts of the elements of a list by position: a list, or a record. Records whose fields
are written in double quotes are read as they were, whatever the fields hold. -/

namespace Covenant.Record

variable {s : State}

/-- A text in which double quotes and backslashes are written twice. -/
def doubled (cs : List Char) : List Char :=
  cs.flatMap fun c => if c = '"' ∨ c = '\\' then [c, c] else [c]

/-- A field in double quotes. -/
def quoted (cs : List Char) : List Char := '"' :: (doubled cs ++ ['"'])

/-- Fields in double quotes with a comma between them, and any number of spaces behind a comma. -/
inductive Writes : List String → List Char → Prop
  | one (field : String) : Writes [field] (quoted field.toList)
  | cons (field : String) (spaces : Nat) (h : Writes fields cs) :
      Writes (field :: fields) (quoted field.toList ++ ',' :: (List.replicate spaces ' ' ++ cs))

theorem Writes.ne_nil (h : Writes fields cs) : fields ≠ [] := by
  cases h <;> simp

theorem doubled_cons (c : Char) (cs : List Char) :
    doubled (c :: cs) = (if c = '"' ∨ c = '\\' then [c, c] else [c]) ++ doubled cs := rfl

theorem run_cons {s' : State} (h : step s c = some s') (cs : List Char) :
    run s (c :: cs) = run s' cs := by
  rw [run, h]
  rfl

/-- Inside quotes, a doubled text adds what it stands for to the open field. -/
theorem run_doubled (hs : s.place = .quoted) (cs rest : List Char) :
    run s (doubled cs ++ rest) = run { s with chars := cs.reverse ++ s.chars } rest := by
  induction cs generalizing s with
  | nil => rfl
  | cons c cs ih =>
    have hadd : run (s.add .quoted c) (doubled cs ++ rest) =
        run { s with chars := (c :: cs).reverse ++ s.chars } rest := by
      rw [ih rfl, State.add, hs, List.reverse_cons, List.append_assoc]
      rfl
    rw [doubled_cons, ← hadd]
    -- a quote and a backslash leave the quoted field at first and come back to it doubled
    by_cases hq : c = '"'
    · subst hq
      have hopen : step s '"' = some { s with place := .quoteInQuoted } := by rw [step, hs]; rfl
      exact run_cons hopen _
    · by_cases hb : c = '\\'
      · subst hb
        have hopen : step s '\\' = some { s with place := .quotedEscape } := by rw [step, hs]; rfl
        exact run_cons hopen _
      · rw [if_neg (not_or.mpr ⟨hq, hb⟩)]
        refine run_cons ?_ _
        simp only [step, hs, if_neg hq, if_neg hb]

/-- Where a field may start. -/
structure AtStart (s : State) : Prop where
  place : s.place = .start ∨ s.place = .field
  chars : s.chars = []

theorem AtStart.run_quoted (h : AtStart s) (cs rest : List Char) :
    run s (quoted cs ++ rest) = run ⟨.quoteInQuoted, s.fields, cs.reverse⟩ rest := by
  have hopen : step s '"' = some { s with place := .quoted } := by
    rcases h.place with hp | hp
    · rw [step, hp]
      rfl
    · rw [step, hp]
      rfl
  have hclose : step ⟨.quoted, s.fields, cs.reverse⟩ '"' =
      some ⟨.quoteInQuoted, s.fields, cs.reverse⟩ := rfl
  rw [quoted, List.cons_append, run_cons hopen, List.append_assoc, run_doubled rfl, h.chars,
    List.append_nil, List.singleton_append, run_cons hclose]

/-- Spaces in front of a field are passed over. -/
theorem run_spaces (hs : s.place = .field) (n : Nat) (rest : List Char) :
    run s (List.replicate n ' ' ++ rest) = run s rest := by
  have hstep : step s ' ' = some s := by
    obtain ⟨place, fields, chars⟩ := s
    cases hs
    rfl
  induction n with
  | zero => rfl
  | succ n ih => rw [List.replicate_succ, List.cons_append, run_cons hstep, ih]

theorem run_writes (h : Writes fields cs) (hs : AtStart s) :
    (run s cs).map finish = some (s.fields.reverse ++ fields.map String.toList) := by
  induction h generalizing s with
  | one field =>
    have hrun := hs.run_quoted field.toList []
    rw [List.append_nil] at hrun
    rw [hrun, run, Option.map_some, finish]
    simp [State.close]
  | @cons fields cs field spaces h ih =>
    have hcomma : step ⟨.quoteInQuoted, s.fields, field.toList.reverse⟩ ',' =
        some ⟨.field, field.toList :: s.fields, []⟩ := by
      simp [step, State.close]
    rw [hs.run_quoted, run_cons hcomma, run_spaces rfl, ih ⟨.inr rfl, rfl⟩]
    simp

/-- Trimmed texts are the fields of the record that they are written as. -/
theorem split_writes (h : Writes fields cs) (ht : ∀ f ∈ fields, trim f.toList = f.toList)
    (hl : ∀ f ∈ fields, f.toList.length ≤ fieldLimit) : split (String.ofList cs) = .ok fields := by
  have hrun : (run {} cs).map finish = some (fields.map String.toList) :=
    run_writes h ⟨.inl rfl, rfl⟩
  have hshort : (fields.map String.toList).any (fieldLimit < ·.length) = false := by
    simpa using hl
  have hmap : (fields.map String.toList).map (fun field => String.ofList (trim field)) =
      fields := by
    rw [List.map_map]
    refine (List.map_congr_left fun f hf => ?_).trans (List.map_id fields)
    exact (congrArg String.ofList (ht f hf)).trans String.ofList_toList
  rw [split, String.toList_ofList, hrun]
  simp only [hshort, hmap]
  rfl

end Covenant.Record

namespace Covenant

variable {p p' : Params} {inner : Check.Delegate} {mode : Mode}

namespace Check

/-- A list is checked by what the contracts by position are read as. -/
theorem list_congr (ha : Params.AgreeOn ["minLen", "maxLen", "contract"] p p')
    (hp : positions (p.get "values") = positions (p'.get "values"))
    (ht : (p.get "values").isTrue = (p'.get "values").isTrue) (data : Value) :
    list inner mode p data = list inner mode p' data := by
  simp only [list, ha.limits (by decide) (by decide), ha.get "contract" (by decide), hp, ht]

end Check

namespace Kind

/-- What comes of data is settled by the check and the default. -/
theorem validate_congr (hk : kind ≠ null)
    (hc : ∀ data, kind.check inner mode p data = kind.check inner mode p' data)
    (hd : p.get "default" = p'.get "default") (data : Value) :
    kind.validate inner mode p data = kind.validate inner mode p' data := by
  simp only [validate, check_put_default hk, hc, hd]

/-- Of the kinds that null may be, only a list looks at contracts by position. -/
theorem validate_values_congr {params : Params} (hk : kind ∈ [list, null])
    (hp : Check.positions v = .ok (c :: cs)) (hp' : Check.positions v' = .ok (c :: cs))
    (data : Value) : kind.validate inner mode (("values", v) :: params) data =
      kind.validate inner mode (("values", v') :: params) data := by
  simp only [List.mem_cons, List.not_mem_nil, or_false] at hk
  rcases hk with rfl | rfl
  · have hget (v : Value) : Params.get (("values", v) :: params) "values" = v := by
      rw [Params.get, Named.get?_cons_self, Option.getD_some]
    have hagree : Params.AgreeOn ["minLen", "maxLen", "contract"] (("values", v) :: params)
        (("values", v') :: params) := by
      intro name hn
      rw [Params.AgreeOn.cons_of_notMem (by decide) v params name hn,
        Params.AgreeOn.cons_of_notMem (by decide) v' params name hn]
    have hcheck : ∀ data, Check.list inner mode (("values", v) :: params) data =
        Check.list inner mode (("values", v') :: params) data := by
      refine Check.list_congr hagree ?_ ?_
      · rw [hget, hget, hp, hp']
      · rw [hget, hget, Check.isTrue_of_positions hp, Check.isTrue_of_positions hp']
    have hdefault : Params.get (("values", v) :: params) "default" =
        Params.get (("values", v') :: params) "default" := by
      rw [Params.get_cons_ne (by decide), Params.get_cons_ne (by decide)]
    have hk : list ≠ null := by decide
    exact validate_congr hk hcheck hdefault data
  · rw [validate_cons (by decide) (by decide), validate_cons (by decide) (by decide)]

end Kind

namespace Filter

/-- A contract with the contracts by position and further entries behind its type. -/
def positional (spec : String) (values : Value) (rest : Entries) : Value :=
  Entries.withType ((.text "values", values) :: rest) spec

theorem ofContract_positional {t : TypeExpr} (hs : spec ≠ "")
    (ht : TypeExpr.read (.text spec) = .ok t) (htype : Entries.get? rest (.text "type") = none)
    (hvalues : Entries.get? rest (.text "values") = none) (values : Value) (i : Bool) :
    Node.ofContract i (positional spec values rest) = (Params.ofEntries rest).map fun params =>
      some ⟨t, ("type", .text spec) :: ("values", values) :: params, i⟩ := by
  have hnone : Entries.get? ((.text "values", values) :: rest) (.text "type") = none := by
    rw [Entries.get?_eq_none] at htype ⊢
    refine List.forall_mem_cons.mpr ⟨?_, htype⟩
    simp [Value.equals]
  rw [positional, Node.ofContract_withType hnone hs ht,
    Params.ofEntries_cons (by decide) (by decide) hvalues]
  cases Params.ofEntries rest <;> rfl

/-- Whatever is read as the same contracts by position makes the same contract. -/
theorem validate_positions {f : Filter} {t : TypeExpr} (hs : spec ≠ "")
    (ht : TypeExpr.read (.text spec) = .ok t)
    (hkind : ∀ token ∈ t.tokens, ∃ kind ∈ [Kind.list, .null], f.registry.kind token = .ok kind)
    (htype : Entries.get? rest (.text "type") = none)
    (hvalues : Entries.get? rest (.text "values") = none)
    (hp : Check.positions v = .ok (c :: cs)) (hp' : Check.positions v' = .ok (c :: cs))
    (data : Value) (strict : Option Bool) :
    f.validate data (positional spec v rest) strict =
      f.validate data (positional spec v' rest) strict := by
  have hread := ofContract_positional hs ht htype hvalues
  rw [validate, validate, run]
  cases hrest : Params.ofEntries rest with
  | error e =>
    -- both contracts are malformed in the same entry, before their positions are looked at
    rw [hrest] at hread
    simp only [step, Scope.part, hread]
    rfl
  | ok params =>
    rw [hrest] at hread
    have hget (name : String) (ht : name ≠ "type") (hv : name ≠ "values") (v : Value) :
        Params.get (("type", .text spec) :: ("values", v) :: params) name = params.get name := by
      rw [Params.get_cons_ne (Ne.symm ht), Params.get_cons_ne (Ne.symm hv)]
    refine step_congr (hread _ _) (hread _ _) ?_ ?_ ?_
    · simp only [Node.strict, hget "strict" (by decide) (by decide)]
    · cases data <;> simp only [Node.candidates, Node.nullCandidates, Node.members,
        Node.defaultsToNull, hget "default" (by decide) (by decide)]
    · intro mode _ tokens htokens token htoken
      obtain ⟨kind, hk, hlookup⟩ := hkind token (Node.candidates_subset htokens htoken)
      rw [attempt_kind hlookup, attempt_kind hlookup, Kind.validate_type_cons,
        Kind.validate_type_cons]
      exact Kind.validate_values_congr hk hp hp' data

/-- The contracts of the elements of a list may be written as a record of quoted fields: it is split
into exactly these contracts, and makes the contract that the list of them makes. -/
theorem validate_quoted {f : Filter} {t : TypeExpr} (h : Record.Writes fields cs)
    (htrim : ∀ field ∈ fields, trim field.toList = field.toList)
    (hlength : ∀ field ∈ fields, field.toList.length ≤ Record.fieldLimit) (hs : spec ≠ "")
    (ht : TypeExpr.read (.text spec) = .ok t)
    (hkind : ∀ token ∈ t.tokens, ∃ kind ∈ [Kind.list, .null], f.registry.kind token = .ok kind)
    (htype : Entries.get? rest (.text "type") = none)
    (hvalues : Entries.get? rest (.text "values") = none) :
    Record.split (String.ofList cs) = .ok fields ∧ ∀ data strict,
      f.validate data (positional spec (.text (String.ofList cs)) rest) strict =
        f.validate data (positional spec (.list (fields.map .text)) rest) strict := by
  have hsplit := Record.split_writes h htrim hlength
  refine ⟨hsplit, ?_⟩
  obtain ⟨field, fields, rfl⟩ := List.exists_cons_of_ne_nil h.ne_nil
  refine validate_positions hs ht hkind htype hvalues ?_ rfl
  show (do return (← Record.split (String.ofList cs)).map Value.text) = _
  rw [hsplit]
  rfl

/-- One of two words, a slash of either kind, and the rest. -/
def threeFields : List String := ["enum; values: \"a, b\"", "enum; values: \\\\, /", "..."]

def threeFieldsText : String :=
  "\"enum; values: \"\"a, b\"\"\",  \"enum; values: \\\\\\\\, /\",\"...\""

/-- Elements that the three fields let through. -/
def threeElements : Value := .list [.text "b", .text "\\", .null]

theorem validate_three_fields :
    Record.Writes threeFields threeFieldsText.toList ∧
      Record.split threeFieldsText = .ok threeFields ∧
      initial.validate threeElements (positional "?list" (.text threeFieldsText) []) (some true) =
        .ok ⟨threeElements, threeElements⟩ := by
  have h : Record.Writes threeFields threeFieldsText.toList := .cons _ 2 (.cons _ 0 (.one _))
  have hq := @validate_quoted threeFields _ "?list" [] initial _ h (by decide) (by decide)
    (by decide) rfl (by decide) rfl rfl
  exact ⟨h, hq.1, (hq.2 threeElements (some true)).trans (by decide +kernel)⟩

end Filter
end Covenant
