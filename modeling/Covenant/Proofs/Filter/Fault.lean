import Covenant.Proofs.Check.Fault
import Covenant.Proofs.Filter.Step
import Covenant.Proofs.Value.Equality

/-! Where a type without parameters takes a step that no contract rule accounts for. -/

namespace Covenant

/-- What a token that is there at first stands for: a kind of data and its parameters. -/
def Registry.bare? (token : String) : Option (Kind × Params) :=
  match Kind.byToken.get? token with
  | some kind => some (kind, [])
  | none =>
    match templates.get? token with
    | some ((_, .text base) :: params) => (Kind.byToken.get? base).map (·, params)
    | _ => none

namespace Registry

/-- Every token is a kind of data by itself, or a template of one. -/
theorem bare?_cases (h : bare? token = some (k, params)) :
    (params = [] ∧ Kind.byToken.get? token = some k) ∨
      (Kind.byToken.get? token = none ∧ ∃ base,
        templates.get? token = some (("type", .text base) :: params) ∧
          Kind.byToken.get? base = some k) := by
  unfold bare? at h
  split at h
  · rename_i hk
    cases h
    exact .inl ⟨rfl, hk⟩
  · rename_i hn
    split at h
    · rename_i name base ps ht
      have ht' : ∀ e ∈ templates, e.2.head?.all (·.1 = "type") := by decide
      have hname : name = "type" := by simpa using ht' _ (Named.mem_of_get? ht)
      rw [Option.map_eq_some_iff] at h
      obtain ⟨k, hk, he⟩ := h
      cases he
      exact .inr ⟨hn, base, hname ▸ ht, hk⟩
    · cases h

/-- The tokens that are there at first are read as they are written. -/
theorem bare?_member (h : bare? token = some (k, params)) :
    TypeExpr.IsMember token ∧ TypeExpr.ofMember token = token ∧ ';' ∉ token.toList := by
  have hk : ∀ e ∈ Kind.byToken,
      TypeExpr.IsMember e.1 ∧ TypeExpr.ofMember e.1 = e.1 ∧ ';' ∉ e.1.toList := by
    decide
  have ht : ∀ e ∈ templates,
      TypeExpr.IsMember e.1 ∧ TypeExpr.ofMember e.1 = e.1 ∧ ';' ∉ e.1.toList := by
    decide
  rcases bare?_cases h with ⟨_, hb⟩ | ⟨_, base, hb, _⟩
  · exact hk _ (Named.mem_of_get? hb)
  · exact ht _ (Named.mem_of_get? hb)

/-- A template is a contract of its kind, with parameters under their own names. -/
theorem templates_read (h : templates.get? token = some (("type", .text base) :: params)) :
    Entries.get? (Params.toEntries params) (.text "type") = none ∧
      Params.ofEntries (Params.toEntries params) = .ok params ∧
      Params.get (("type", .text base) :: params) "strict" = .null ∧
      TypeExpr.read (.text base) = .ok ⟨[base], none, false⟩ ∧ base ≠ TypeExpr.nullToken ∧
      base ≠ "" := by
  have hall : ∀ e ∈ templates, Entries.get? (Params.toEntries e.2.tail) (.text "type") = none ∧
      Params.ofEntries (Params.toEntries e.2.tail) = .ok e.2.tail ∧
      Params.get e.2 "strict" = .null ∧
      ∀ p ∈ e.2.head?, ∀ base ∈ (TypeExpr.sourceOf p.2).toOption,
        TypeExpr.read (.text base) = .ok ⟨[base], none, false⟩ ∧ base ≠ TypeExpr.nullToken ∧
          base ≠ "" := by
    decide
  obtain ⟨hg, ho, hs, hbase⟩ := hall _ (Named.mem_of_get? h)
  exact ⟨hg, ho, hs, hbase _ rfl base rfl⟩

variable {instances : List Instance}

theorem kind_of_byToken (h : Kind.byToken.get? token = some k) :
    kind ⟨builtin, true, instances⟩ token = .ok k := by
  have hg : builtin.get? token = some (.kind k) := by
    rw [builtin, Named.get?_append, Named.get?_map, h]
    rfl
  simp only [kind, lookup, hg, bind, Except.bind]
  rfl

theorem lookup_of_templates (hn : Kind.byToken.get? token = none)
    (h : templates.get? token = some params) :
    lookup ⟨builtin, true, instances⟩ token = .ok (.template ⟨params.toEntries, false⟩) := by
  have hg : builtin.get? token = some (.template ⟨params.toEntries, false⟩) := by
    rw [builtin, Named.get?_append, Named.get?_map, hn]
    exact (Named.get?_map (fun ps : Params => Entry.template ⟨ps.toEntries, false⟩) templates
      token).trans (by rw [h]; rfl)
  simp only [lookup, hg]

end Registry

namespace Kind

variable {mode : Mode} {data : Value} {inner : Check.Delegate}

theorem hash_names {params : Params}
    (h : (params.list "algo" >>= fun names => Check.Hash.chooseAll (names.getD [])).isOk)
    (names : Option (List Value)) (hn : params.list "algo" = .ok names) :
    FailsAs P (Check.Hash.chooseAll (names.getD [])) := by
  rw [hn] at h
  exact .of_isOk h

/-- A number of one digit has a text, so that at most its meaning as a version is refused. -/
theorem ipVersion_fails {i : Int} (hP : ∀ m, P (.malformed m)) (hi : i.natAbs < 10) :
    FailsAs P (Check.ipVersion (.int i)) := by
  have hpow {n : Nat} (hn : n ≠ 0) : 10 ≤ Nat.pow 10 n := Nat.le_self_pow hn 10
  have hlt : i.natAbs < Nat.pow 10 digitLimit := hi.trans_le (hpow (by decide))
  have ht : (Value.int i).toText = .ok (String.ofList (Decimal.ofInt i)) := by
    rw [Value.toText_int, Decimal.ofInt?, if_pos hlt]
    rfl
  unfold Check.ipVersion
  simp only [ht, bind, Except.bind]
  split
  · exact .ok _
  · exact .ok _
  · exact FailsAs.error_iff.mpr (hP _)

/-- The parameters of the templates neither add wrong steps to those of their kinds nor avoid any.
-/
theorem check_template_crashed_iff {kind : Kind} {params : Params}
    (h : (token, ("type", .text base) :: params) ∈ Registry.templates)
    (hk : byToken.get? base = some kind)
    (hc : ∀ v, FailsAs (Failure.OnlyFault none) (inner.content [("type", .text "binary")] v)) :
    kind.check inner mode params data = .error (.failed (.crashed fault)) ↔
      kind.fault? mode.strict data = some fault := by
  have hP (m : String) : (Failure.malformed m).OnlyFault (kind.fault? mode.strict data) :=
    Failure.malformed_onlyFault m
  have hi {ps : Params}
      (hs : StopsAs (Failure.OnlyFault (kind.fault? mode.strict data))
        (kind.check inner mode ps data))
      (hf : kind.fault? mode.strict data = some fault →
        kind.check inner mode ps data = .error (.failed (.crashed fault))) :
      kind.check inner mode ps data = .error (.failed (.crashed fault)) ↔
        kind.fault? mode.strict data = some fault :=
    ⟨fun he => hs _ he fault rfl, hf⟩
  simp only [Registry.templates, List.mem_cons, List.cons.injEq, Prod.mk.injEq, Value.text.injEq,
    List.not_mem_nil, or_false, true_and] at h
  rcases h with ⟨_, rfl, rfl⟩ | ⟨_, rfl, rfl⟩ | ⟨_, rfl, rfl⟩ | ⟨_, rfl, rfl⟩ | ⟨_, rfl, rfl⟩ |
    ⟨_, rfl, rfl⟩ | ⟨_, rfl, rfl⟩ | ⟨_, rfl, rfl⟩ | ⟨_, rfl, rfl⟩ | ⟨_, rfl, rfl⟩
  · obtain rfl : list = kind := Option.some.inj hk
    exact check_nil_crashed_iff hc
  · obtain rfl : bool = kind := Option.some.inj hk
    refine hi ?_ fun hf => by cases hf
    rw [check]
    exact Check.bool_stops hP
  · obtain rfl : bool = kind := Option.some.inj hk
    refine hi ?_ fun hf => by cases hf
    rw [check]
    exact Check.bool_stops hP
  · obtain rfl : int = kind := Option.some.inj hk
    refine hi ?_ fun hf => int_fails rfl rfl rfl hf
    rw [check]
    refine Check.int_stops hP (.ok _) (.ok _) fun hs => Check.readInt_stops fun s he hl => ?_
    rw [he, hs, fault?, if_pos hl]
  · obtain rfl : ip = kind := Option.some.inj hk
    exact hi (@Check.ip_stops _ _ mode data (ipVersion_fails hP (by decide))) fun hf => by cases hf
  · obtain rfl : ip = kind := Option.some.inj hk
    exact hi (@Check.ip_stops _ _ mode data (ipVersion_fails hP (by decide))) fun hf => by cases hf
  all_goals
    obtain rfl : hash = kind := Option.some.inj hk
    exact hi (@Check.hash_stops _ _ mode data hP (hash_names (by decide)) (.ok _))
      fun hf => by cases hf

theorem check_bare_crashed_iff {kind : Kind} (h : Registry.bare? token = some (kind, params))
    (hc : ∀ v, FailsAs (Failure.OnlyFault none) (inner.content [("type", .text "binary")] v)) :
    kind.check inner mode params data = .error (.failed (.crashed fault)) ↔
      kind.fault? mode.strict data = some fault := by
  rcases Registry.bare?_cases h with ⟨rfl, _⟩ | ⟨_, base, ht, hk⟩
  · exact check_nil_crashed_iff hc
  · exact check_template_crashed_iff (Named.mem_of_get? ht) hk hc

theorem bare?_default (h : Registry.bare? token = some (kind, params)) :
    params.get "default" = .null := by
  rcases Registry.bare?_cases h with ⟨rfl, _⟩ | ⟨_, base, ht, _⟩
  · rfl
  · have hd : ∀ e ∈ Registry.templates, Params.get e.2 "default" = .null := by decide
    exact (Params.get_cons_ne (by decide) params _).symm.trans (hd _ (Named.mem_of_get? ht))

theorem validate_bare_crashed_iff {kind : Kind} (h : Registry.bare? token = some (kind, params))
    (hc : ∀ v, FailsAs (Failure.OnlyFault none) (inner.content [("type", .text "binary")] v))
    (v : Value) :
    kind.validate inner mode (("type", v) :: params) data = .error (.crashed fault) ↔
      kind.fault? mode.strict data = some fault := by
  rw [validate_type_cons, validate_without_default (bare?_default h), Check.settle_eq_crashed,
    check_bare_crashed_iff h hc]

end Kind

namespace Filter

variable {instances : List Instance}

theorem content_stops (nested : Pass) (inline : Bool) (v : Value) :
    FailsAs (Failure.OnlyFault none)
      (content ⟨Registry.builtin, true, instances⟩ nested inline [("type", .text "binary")] v) := by
  have hb : Registry.bare? "binary" = some (.binary, []) := by decide
  intro f hf fault he
  subst he
  have hk : Kind.fault? .binary false v = some fault :=
    (Kind.validate_bare_crashed_iff hb (fun _ => by simp) (.text "binary")).mp hf
  cases hk

/-- The contract of a template is a contract of its kind. -/
theorem step_of_template
    (ht : Registry.templates.get? token = some (("type", .text base) :: params))
    (hk : Kind.byToken.get? base = some kind) (strict : Bool) (expanded : List String)
    (nested : Pass) (data : Value) :
    step ⟨Registry.builtin, true, instances⟩ nested ⟨strict, true, expanded⟩ data
        (.map (Params.toEntries (("type", .text base) :: params))) =
      kind.validate (delegate ⟨Registry.builtin, true, instances⟩ nested ⟨strict, true⟩)
        ⟨strict, true⟩ (("type", .text base) :: params) data := by
  obtain ⟨hg, ho, hs, hr, hnull, hne⟩ := Registry.templates_read ht
  have hc : Node.ofContract true (.map (Params.toEntries (("type", .text base) :: params))) =
      .ok (some ⟨⟨[base], none, false⟩, ("type", .text base) :: params, true⟩) := by
    refine (Node.ofContract_withType hg hne hr true).trans ?_
    rw [ho]
    rfl
  have hst : (Node.mk ⟨[base], none, false⟩ (("type", .text base) :: params) true).strict strict =
      .ok strict := by
    rw [Node.strict, hs]
  rw [step_of_node hc hst (Node.candidates_of_no_null (by simpa using hnull.symm) rfl data),
    firstAccepted_single, attempt_kind (Registry.kind_of_byToken hk)]

/-- A type by itself is tried on all data but null, which its marker may let pass. -/
theorem candidates_bare (v : Value) (data : Value) (marker : Option Bool) (marked : Bool) :
    Node.candidates ⟨if token = TypeExpr.nullToken then ⟨[token], marker, true⟩
        else ⟨if marked then [TypeExpr.nullToken, token] else [token], marker, marked⟩,
      [("type", v)], true⟩ data = some [token] ∨
    data = .null ∧ Node.candidates ⟨if token = TypeExpr.nullToken then ⟨[token], marker, true⟩
        else ⟨if marked then [TypeExpr.nullToken, token] else [token], marker, marked⟩,
      [("type", v)], true⟩ data = none := by
  have hd : Params.get [("type", v)] "default" = .null := rfl
  by_cases hn : token = TypeExpr.nullToken
  · rw [if_pos hn]
    cases data with
    | null => exact .inr ⟨rfl, by simp [Node.candidates, Node.nullCandidates, hd, Value.isNull]⟩
    | _ => exact .inl (by simp [Node.candidates])
  · rw [if_neg hn]
    cases marked with
    | false => exact .inl (Node.candidates_of_no_null (by simpa using Ne.symm hn) rfl data)
    | true =>
      cases data with
      | null => exact .inr ⟨rfl, by simp [Node.candidates, Node.nullCandidates, hd, Value.isNull]⟩
      | _ => exact .inl (by simp [Node.candidates, Node.members, hn])

/-- A type by itself leaves data to the check of its kind. -/
theorem validate_bare {config : Config} (hd : 0 < config.maxDepth)
    (hb : Registry.bare? token = some (kind, params)) (marker : Option Bool) (marked : Bool)
    (data : Value) (s : Option Bool) :
    (∃ nested v, validate ⟨config, ⟨Registry.builtin, true, instances⟩⟩ data
        (.text (TypeExpr.union marker marked [token])) s =
      kind.validate (delegate ⟨Registry.builtin, true, instances⟩ nested
        ⟨marker.getD (s.getD config.strict), true⟩) ⟨marker.getD (s.getD config.strict), true⟩
        (("type", v) :: params) data) ∨
    data = .null ∧ validate ⟨config, ⟨Registry.builtin, true, instances⟩⟩ data
        (.text (TypeExpr.union marker marked [token])) s = .ok ⟨.null, .null⟩ := by
  obtain ⟨hm, ho, hsemi⟩ := Registry.bare?_member hb
  have hr := TypeExpr.read_single marker marked hm ho
    (show trim (onChars trim (TypeExpr.union marker marked [token])).toList = _ by
      rw [onChars, String.toList_ofList, trim_idem])
  have hc := Node.ofContract_bare (TypeExpr.semicolon_notMem_union hsemi)
    (TypeExpr.trim_union_ne_nil hm) hr false
  have hst : Node.strict ⟨if token = TypeExpr.nullToken then ⟨[token], marker, true⟩
        else ⟨if marked then [TypeExpr.nullToken, token] else [token], marker, marked⟩,
      [("type", .text (onChars trim (TypeExpr.union marker marked [token])))], true⟩
      (s.getD config.strict) = .ok (marker.getD (s.getD config.strict)) := by
    have hmode : (if token = TypeExpr.nullToken then TypeExpr.mk [token] marker true
        else ⟨if marked then [TypeExpr.nullToken, token] else [token], marker, marked⟩).mode =
          marker := by
      split
      · rfl
      · rfl
    simp only [Node.strict, hmode]
    cases marker with
    | none => rfl
    | some mode => rfl
  rcases candidates_bare (.text (onChars trim (TypeExpr.union marker marked [token]))) data marker
    marked with hn | ⟨hnull, hn⟩
  · refine .inl ?_
    rw [validate, run, step_of_node hc hst hn, firstAccepted_single]
    rcases Registry.bare?_cases hb with ⟨rfl, hk⟩ | ⟨hk, base, ht, hkb⟩
    · exact ⟨_, _, attempt_kind (Registry.kind_of_byToken hk)⟩
    · obtain ⟨depth, hdepth⟩ := Nat.exists_eq_succ_of_ne_zero hd.ne'
      refine ⟨run ⟨Registry.builtin, true, instances⟩ config.maxDepth depth, .text base, ?_⟩
      have hrun (limit : Nat) : run ⟨Registry.builtin, true, instances⟩ limit config.maxDepth =
          step ⟨Registry.builtin, true, instances⟩
            (run ⟨Registry.builtin, true, instances⟩ limit depth) := by
        rw [hdepth, run]
      rw [attempt_template (Registry.lookup_of_templates hk ht) (by simp [Scope.part]) rfl, hrun]
      exact step_of_template ht hkb _ _ _ data
  · refine .inr ⟨hnull, ?_⟩
    rw [validate, run, step_of_null hc hst hn]

end Filter
end Covenant
