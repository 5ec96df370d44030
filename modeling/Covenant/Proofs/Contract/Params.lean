import Covenant.Proofs.Contract.Node

/-! Parameters under their canonical names. -/

namespace Covenant

theorem Value.isAbsent_of_isTrue {v : Value} (h : v.isTrue) : v.isAbsent = false := by
  cases v with
  | null => cases h
  | text s =>
    rw [isTrue, bne_iff_ne] at h
    exact beq_eq_false_iff_ne.mpr h
  | _ => rfl

namespace Params

theorem canonicalName_idem (name : String) :
    canonicalName (canonicalName name) = canonicalName name := by
  cases hf : flexibleNames.get? (onChars (fun cs => lower (cs.filter (· != '_'))) name) with
  | none =>
    have hn : canonicalName name = name := by rw [canonicalName, hf, Option.getD_none]
    rw [hn, hn]
  | some n =>
    have hall : ∀ e ∈ flexibleNames, canonicalName e.2 = e.2 := by decide
    have hn := hall _ (Named.mem_of_get? hf)
    rw [show canonicalName name = n by rw [canonicalName, hf, Option.getD_some]]
    exact hn

/-- Parameters as they are kept: under canonical names, each name once. -/
structure Canonical (params : Params) : Prop where
  nodup : (params.map (·.1)).Nodup
  names : ∀ p ∈ params, canonicalName p.1 = p.1

namespace Canonical

variable {params other : Params}

theorem nil : Canonical [] := ⟨List.nodup_nil, by simp⟩

theorem put (h : params.Canonical) (hn : canonicalName name = name) (v : Value) :
    Canonical (params.put name v) := by
  refine ⟨Named.nodup_put h.nodup name v, fun p hp => ?_⟩
  rcases Named.mem_put hp with rfl | hp
  · exact hn
  · exact h.names p hp

theorem update (h : params.Canonical) (ho : ∀ p ∈ other, canonicalName p.1 = p.1) :
    Canonical (params.update other) := by
  induction other generalizing params with
  | nil => exact h
  | cons p other ih =>
    obtain ⟨hp, ho⟩ := List.forall_mem_cons.mp ho
    exact ih (h.put hp p.2) ho

theorem filter (h : params.Canonical) (keep : String × Value → Bool) :
    Canonical (List.filter keep params) :=
  ⟨h.nodup.sublist (List.filter_sublist.map _), fun p hp => h.names p (List.mem_of_mem_filter hp)⟩

end Canonical

/-- Puts in one entry of a mapping, under its canonical name. -/
def putEntry (params : Params) (e : Value × Value) : Except Failure Params :=
  match e.1 with
  | .text name => .ok (params.put (canonicalName name) e.2)
  | .bytes _ => .error (.crashed .wrongKind)
  | _ => .error (.crashed .notText)

theorem ofEntries_eq (entries : Entries) : ofEntries entries = entries.foldlM putEntry [] := rfl

theorem Canonical.putEntry {params : Params} (h : params.Canonical)
    (he : params.putEntry e = .ok params') : params'.Canonical := by
  unfold Params.putEntry at he
  split at he
  · cases he
    exact h.put (canonicalName_idem _) _
  · cases he
  · cases he

theorem canonical_of_ofEntries (h : ofEntries entries = .ok params) : params.Canonical :=
  foldlM_preserves (fun _ _ _ hc he => hc.putEntry he) .nil h

/-- Parameters can be read exactly if their names are texts. -/
theorem exists_ofEntries_iff :
    (∃ params, ofEntries entries = .ok params) ↔ ∀ e ∈ entries, ∃ name, e.1 = .text name := by
  have hfold (acc : Params) : (∃ params, entries.foldlM putEntry acc = .ok params) ↔
      ∀ e ∈ entries, ∃ name, e.1 = .text name := by
    induction entries generalizing acc with
    | nil => simp [pure, Except.pure]
    | cons e entries ih =>
      obtain ⟨key, v⟩ := e
      rw [List.foldlM_cons, List.forall_mem_cons]
      cases key with
      | text name =>
        refine (ih (acc.put (canonicalName name) v)).trans ?_
        simp
      | _ => simp [putEntry, bind, Except.bind]
  exact hfold []

/-- Of the entries that give a type, the last counts. -/
theorem get?_type_of_foldlM (h : entries.foldlM putEntry acc = .ok params) :
    Named.get? params "type" =
      ((List.filter (·.1.equals (.text "type")) entries).getLast?.map (·.2)).or
        (Named.get? acc "type") := by
  induction entries generalizing acc with
  | nil =>
    cases h
    rfl
  | cons e entries ih =>
    obtain ⟨key, v⟩ := e
    rw [List.foldlM_cons] at h
    obtain ⟨acc', hput, h⟩ := bind_eq_ok.mp h
    rw [ih h]
    cases key with
    | text name =>
      cases hput
      by_cases hn : name = "type"
      · subst hn
        rw [List.filter_cons_of_pos (by simp [Value.equals]), List.getLast?_cons,
          show canonicalName "type" = "type" by decide, Named.get?_put_self]
        cases (List.filter (·.1.equals (.text "type")) entries).getLast? <;> rfl
      · rw [List.filter_cons_of_neg (by simp [Value.equals, hn]),
          Named.get?_put_ne (canonicalName_ne_type hn)]
    | _ => cases hput

theorem get?_type_of_ofEntries (h : ofEntries entries = .ok params) :
    Named.get? params "type" =
      (List.filter (·.1.equals (.text "type")) entries).getLast?.map (·.2) := by
  rw [get?_type_of_foldlM h]
  exact Option.or_none

/-- Canonical parameters are read as they are kept. -/
theorem Canonical.ofEntries_toEntries {params : Params} (h : params.Canonical) :
    ofEntries params.toEntries = .ok params := by
  have hfold (acc : Params) (hn : ∀ p ∈ params, canonicalName p.1 = p.1) :
      params.toEntries.foldlM Params.putEntry acc = .ok (acc.update params) := by
    clear h
    induction params generalizing acc with
    | nil => rfl
    | cons p params ih =>
      obtain ⟨hp, hn⟩ := List.forall_mem_cons.mp hn
      have hput : acc.putEntry (.text p.1, p.2) = .ok (acc.put p.1 p.2) :=
        congrArg (fun name => Except.ok (acc.put name p.2)) hp
      rw [toEntries, List.map_cons, List.foldlM_cons, hput]
      exact ih _ hn
  rw [ofEntries_eq, hfold [] h.names]
  exact congrArg Except.ok (Named.update_of_nodup h.nodup)

theorem put_toEntries (params : Params) (name : String) (v : Value) :
    params.toEntries.put (.text name) v = toEntries (params.put name v) := by
  induction params with
  | nil => rfl
  | cons p params ih =>
    obtain ⟨n, w⟩ := p
    have he : (Value.text n).equals (.text name) = true ↔ n = name := by simp [Value.equals]
    rw [toEntries, List.map_cons, Entries.put, Named.put]
    by_cases hn : n = name
    · rw [if_pos (he.mpr hn), if_pos hn]
      rfl
    · rw [if_neg (fun h => hn (he.mp h)), if_neg hn]
      exact congrArg (_ :: ·) ih

theorem update_toEntries (params other : Params) :
    params.toEntries.update (toEntries other) = toEntries (params.update other) := by
  induction other generalizing params with
  | nil => rfl
  | cons p other ih =>
    show Entries.update (params.toEntries.put (.text p.1) p.2) (toEntries other) = _
    rw [put_toEntries]
    exact ih (params.put p.1 p.2)

theorem get?_toEntries (params : Params) (name : String) :
    params.toEntries.get? (.text name) = Named.get? params name := by
  induction params with
  | nil => rfl
  | cons p params ih =>
    obtain ⟨n, v⟩ := p
    have he : (Value.text n).equals (.text name) = (n == name) := by simp [Value.equals]
    rw [toEntries] at ih ⊢
    rw [List.map_cons, Entries.get?, Named.get?, List.find?_cons, List.find?_cons]
    dsimp only
    rw [he]
    cases n == name
    · exact ih
    · rfl

/-- A parameter that is not absent is there. -/
theorem get?_of_get {params : Params} (h : (params.get name).isAbsent = false) :
    Named.get? params name = some (params.get name) := by
  rw [get] at h ⊢
  cases hn : Named.get? params name with
  | none =>
    rw [hn] at h
    cases h
  | some v => rfl

end Params

theorem Source.canonical_of_readParams (hc : acc.Canonical)
    (h : readParams acc stage cs = .ok params) : params.Canonical := by
  have hstore (acc : Params) (hc : acc.Canonical) (name : List Char) (pieces : List Piece)
      (chars : List Char) : (store acc name pieces chars).Canonical :=
    hc.put (Params.canonicalName_idem _) _
  fun_induction readParams acc stage cs
  case case1 =>
    obtain ⟨_, _, h⟩ := bind_eq_ok.mp h
    cases h
    exact hc
  case case2 ih =>
    obtain ⟨_, _, h⟩ := bind_eq_ok.mp h
    exact ih hc h
  case case3 => cases h
  case case6 =>
    cases h
    exact hstore _ hc _ _ _
  case case7 ih => exact ih (hstore _ hc _ _ _) h
  case case12 => cases h
  -- What is left goes on reading, with the parameters as they are.
  all_goals
    rename_i ih
    exact ih hc h

theorem Source.canonical_of_read (h : read source = .ok params) : params.Canonical := by
  have htype (v : Value) : Params.Canonical [("type", v)] :=
    Params.Canonical.nil.put (by decide) v
  rw [read] at h
  split at h
  · cases h
    exact htype _
  · exact canonical_of_readParams (htype _) h

namespace Node

variable {node : Node} {params : Params}

theorem canonical_record (keys : Value) : (record keys).Canonical := by
  have htype : Params.Canonical [("type", .text "assoc")] :=
    Params.Canonical.nil.put (by decide) (.text "assoc")
  show Params.Canonical (Named.put [("type", .text "assoc")] "keys" keys)
  exact htype.put (by decide) keys

/-- However a contract is written, its parameters are kept under canonical names. -/
theorem canonical_of_paramsOf (h : paramsOf contract = .ok (some params)) : params.Canonical := by
  unfold paramsOf at h
  split at h
  · cases h
  · split at h
    · cases h
    · obtain ⟨params', hp, h⟩ := bind_eq_ok.mp h
      cases h
      exact Source.canonical_of_read hp
  · cases h
    exact canonical_record _
  · cases h
    exact canonical_record _
  · cases h
  · split at h
    · cases h
      exact canonical_record _
    · obtain ⟨params', hp, h⟩ := bind_eq_ok.mp h
      cases h
      exact Params.canonical_of_ofEntries hp
  · obtain ⟨_, _, h⟩ := bind_eq_ok.mp h
    cases h

theorem ofContract_eq_ok (h : ofContract i contract = .ok (some node)) :
    paramsOf contract = .ok (some node.params) ∧
      (node.params.get "type").isAbsent = false ∧
      TypeExpr.read (node.params.get "type") = .ok node.type ∧
      node.inline = (i || isText contract) := by
  rw [ofContract] at h
  obtain ⟨params?, hp, h⟩ := bind_eq_ok.mp h
  cases params? with
  | none => cases h
  | some params =>
    dsimp only at h
    split at h
    · cases h
    · rename_i ha
      obtain ⟨t, ht, h⟩ := bind_eq_ok.mp h
      cases h
      exact ⟨hp, Bool.eq_false_iff.mpr ha, ht, rfl⟩

theorem canonical_of_ofContract (h : ofContract i contract = .ok (some node)) :
    node.params.Canonical :=
  canonical_of_paramsOf (ofContract_eq_ok h).1

/-- A contract is read alike in the compact notation and outside of it. -/
theorem ofContract_inline (h : ofContract i contract = .ok (some node)) (i' : Bool) :
    ofContract i' contract = .ok (some { node with inline := i' || isText contract }) := by
  obtain ⟨hp, ha, ht, _⟩ := ofContract_eq_ok h
  simp only [ofContract, hp, ha, ht, bind, Except.bind, Bool.false_eq_true, if_false]
  rfl

theorem ofContract_eq_map (i : Bool) (contract : Value) :
    ofContract i contract = (ofContract false contract).map
      (Option.map fun node => { node with inline := i || node.inline }) := by
  simp only [ofContract, bind, Except.bind]
  cases paramsOf contract with
  | error e => rfl
  | ok params? =>
    cases params? with
    | none => rfl
    | some params =>
      dsimp only
      split
      · rfl
      · cases TypeExpr.read (params.get "type") <;> rfl

theorem ofContract_eq_none_iff :
    ofContract i contract = .ok none ↔ ofContract false contract = .ok none := by
  rw [ofContract_eq_map]
  cases ofContract false contract with
  | error e => simp [Except.map]
  | ok node? => cases node? <;> simp [Except.map]

/-- Canonical parameters with a type are read as they are kept. -/
theorem paramsOf_toValue (hc : params.Canonical) (ht : Named.get? params "type" = some v) :
    paramsOf params.toValue = .ok (some params) := by
  rw [Params.toValue, paramsOf_typed, hc.ofEntries_toEntries]
  · rfl
  · rw [Params.get?_toEntries, ht]
    rfl

theorem ofContract_toValue {t : TypeExpr} (hc : params.Canonical)
    (hs : params.get "type" = .text spec) (hne : spec ≠ "")
    (ht : TypeExpr.read (.text spec) = .ok t) (i : Bool) :
    ofContract i params.toValue = .ok (some ⟨t, params, i⟩) := by
  have ha : (Value.text spec).isAbsent = false := by simpa [Value.isAbsent] using hne
  have hg := Params.get?_of_get (hs ▸ ha : (params.get "type").isAbsent = false)
  simp only [ofContract, paramsOf_toValue hc hg, bind, Except.bind, hs, ha, ht, Bool.false_eq_true,
    if_false]
  cases i <;> rfl

end Node
end Covenant
