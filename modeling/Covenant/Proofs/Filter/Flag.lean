import Covenant.Proofs.Check.Alike
import Covenant.Proofs.Filter.Step
import Covenant.Proofs.Filter.Reach
import Covenant.Proofs.Template
import Covenant.Proofs.Value.Equality

/-! Flags in a contract, and in the contracts nested in it, may be given as text or as truth
values. -/

namespace Covenant

open List (Forall₂)

/-- The type of a mapping. Of the entries that give one, the last counts. -/
def Entries.spec (entries : Entries) : Value :=
  ((entries.filter (·.1.equals (.text "type"))).getLast?.map (·.2)).getD .null

/-- A type is a union in which something stands for a kind. -/
inductive Registry.StandsFor (types : Registry) : Value → Kind → Prop
  | of_kind (h : TypeExpr.read spec = .ok t) (ht : token ∈ t.tokens)
      (hl : types.lookup token = .ok (.kind k)) : StandsFor types spec k
  | of_template (h : TypeExpr.read spec = .ok t) (ht : token ∈ t.tokens)
      (hl : types.lookup token = .ok (.template template))
      (hr : StandsFor types (Entries.spec template.contract) k) : StandsFor types spec k

theorem Registry.standsFor_iff {types : Registry} (h : TypeExpr.read spec = .ok t) :
    types.StandsFor spec k ↔ ∃ token ∈ t.tokens, types.lookup token = .ok (.kind k) ∨
      ∃ template, types.lookup token = .ok (.template template) ∧
        types.StandsFor (Entries.spec template.contract) k := by
  constructor
  · rintro (⟨h', ht, hl⟩ | ⟨h', ht, hl, hr⟩)
    · cases h.symm.trans h'
      exact ⟨_, ht, .inl hl⟩
    · cases h.symm.trans h'
      exact ⟨_, ht, .inr ⟨_, hl, hr⟩⟩
  · rintro ⟨token, ht, hl | ⟨template, hl, hr⟩⟩
    · exact .of_kind h ht hl
    · exact .of_template h ht hl hr

inductive EntryAlike (R : Value → Value → Prop) (listed : Bool) :
    Value × Value → Value × Value → Prop
  | same (e : Value × Value) : EntryAlike R listed e e
  | param (h : ParamAlike R listed (name, v) (name, v')) :
      EntryAlike R listed (.text name, v) (.text name, v')

/-- Contracts that are the same, but for flags that are given as text or as the truth value that is
read from it, at whatever depth. The contracts in a list of values do not count where the values may
be those of an enumeration. -/
inductive Alike (types : Registry) : Value → Value → Prop
  | same (c : Value) : Alike types c c
  | typed (ht : (Entries.get? entries (.text "type")).isSome)
      (h : Forall₂ (EntryAlike (Alike types) false) entries entries') :
      Alike types (.map entries) (.map entries')
  | listed (ht : (Entries.get? entries (.text "type")).isSome)
      (hl : ¬types.StandsFor (Entries.spec entries) .enum)
      (h : Forall₂ (EntryAlike (Alike types) true) entries entries') :
      Alike types (.map entries) (.map entries')
  | record (ht : Entries.get? entries (.text "type") = none)
      (h : Forall₂ (KeyAlike (Alike types)) entries entries') :
      Alike types (.map entries) (.map entries')

variable {R : Value → Value → Prop} {listed : Bool}

namespace EntryAlike

theorem key_eq (h : EntryAlike R listed e e') : e.1 = e'.1 := by
  cases h <;> rfl

/-- An entry that takes the place of another one keeps the key of that one. -/
theorem of_equals (h : EntryAlike R listed (key, v) (key', v')) (hk : k.equals key = true) :
    EntryAlike R listed (k, v) (k, v') := by
  cases h with
  | same => exact .same _
  | param h =>
    rw [Value.equals_text_iff.mp hk]
    exact .param h

end EntryAlike

namespace ParamAlike

/-- The names of flags and contracts are canonical. -/
theorem canonicalName (h : ParamAlike R listed (name, v) (name, v')) :
    ParamAlike R listed (Params.canonicalName name, v) (Params.canonicalName name, v') := by
  have hall : ∀ name ∈ Flag.names ++ ["contract", "keys", "values"],
      Params.canonicalName name = name := by
    decide
  by_cases hn : name ∈ Flag.names ++ ["contract", "keys", "values"]
  · rwa [hall name hn]
  · rw [h.eq hn]
    exact .same _

end ParamAlike

namespace Entries

variable {entries entries' other other' : Entries}

theorem isSome_get?_alike (h : Forall₂ (fun e e' : Value × Value => e.1 = e'.1) entries entries')
    (key : Value) : (get? entries key).isSome = (get? entries' key).isSome := by
  rw [get?, get?, Option.isSome_map, Option.isSome_map]
  induction h with
  | nil => rfl
  | cons he h ih =>
    rw [List.find?_cons, List.find?_cons, he]
    split
    · rfl
    · exact ih

theorem put_alike (h : Forall₂ (EntryAlike R listed) entries entries')
    (he : EntryAlike R listed (key, v) (key, v')) :
    Forall₂ (EntryAlike R listed) (entries.put key v) (entries'.put key v') := by
  induction h with
  | nil => exact .cons he .nil
  | @cons e e' entries entries' hk h ih =>
    obtain ⟨k, w⟩ := e
    obtain ⟨k', w'⟩ := e'
    obtain rfl : k = k' := hk.key_eq
    rw [put, put]
    split
    · rename_i heq
      exact .cons (he.of_equals heq) h
    · exact .cons hk ih

theorem update_alike (h : Forall₂ (EntryAlike R listed) entries entries')
    (ho : Forall₂ (EntryAlike R listed) other other') :
    Forall₂ (EntryAlike R listed) (entries.update other) (entries'.update other') := by
  induction ho generalizing entries entries' with
  | nil => exact h
  | @cons e e' other other' he ho ih =>
    obtain ⟨k, v⟩ := e
    obtain ⟨k', v'⟩ := e'
    obtain rfl : k = k' := he.key_eq
    exact ih (put_alike h he)

end Entries

namespace Params

/-- Entries that are alike are read as parameters that are. -/
theorem ofEntries_alike (h : Forall₂ (EntryAlike R listed) entries entries') :
    Related (Alike R listed) (ofEntries entries) (ofEntries entries') := by
  have hfold {p p' : Params} (hp : p.Alike R listed p') :
      Related (Alike R listed) (entries.foldlM putEntry p) (entries'.foldlM putEntry p') := by
    induction h generalizing p p' with
    | nil => exact .ok hp
    | @cons e e' entries entries' he h ih =>
      rw [List.foldlM_cons, List.foldlM_cons]
      refine Related.bind ?_ fun _ _ => ih
      cases he with
      | same e =>
        obtain ⟨key, v⟩ := e
        cases key with
        | text name => exact .ok (hp.put (.same _))
        | _ => exact .error _
      | param hv => exact .ok (hp.put hv.canonicalName)
  exact hfold .nil

/-- What is added to a template is alike. -/
theorem Alike.additions (hR : AlikeContracts R) {p p' : Params} (h : p.Alike R listed p') :
    Forall₂ (EntryAlike R listed) (toEntries (Template.additions p))
      (toEntries (Template.additions p')) := by
  rw [toEntries, toEntries, List.forall₂_map_left_iff, List.forall₂_map_right_iff,
    Template.additions, Template.additions]
  refine (List.rel_filter ?_ h).imp fun e e' he => ?_
  · intro e e' he
    dsimp only
    rw [he.name_eq, he.isNull hR]
  · obtain ⟨name, v⟩ := e
    obtain ⟨name', v'⟩ := e'
    obtain rfl : name = name' := he.name_eq
    exact .param he

end Params

namespace Alike

variable {types : Registry}

theorem alikeContracts (types : Registry) : AlikeContracts (Alike types) := by
  refine ⟨.same, fun c c' h => ?_⟩
  cases h with
  | same => exact .inl rfl
  | typed _ h | listed _ _ h | record _ h =>
    cases h with
    | nil => exact .inl rfl
    | cons he h => exact .inr ⟨_, _, _, _, rfl, rfl⟩

end Alike

theorem Entries.get_type_of_ofEntries (h : Params.ofEntries entries = .ok p) :
    p.get "type" = spec entries := by
  rw [Params.get, Params.get?_type_of_ofEntries h, spec]

/-- Parameters of contracts that are alike. -/
def Params.AlikeIn (types : Registry) (p p' : Params) : Prop :=
  ∃ listed, p.Alike (Covenant.Alike types) listed p' ∧
    (listed = true → ¬types.StandsFor (p.get "type") .enum)

namespace Alike

variable {types : Registry}

theorem paramsOf_typed (ht : (Entries.get? entries (.text "type")).isSome)
    (hl : listed = true → ¬types.StandsFor (Entries.spec entries) .enum)
    (h : Forall₂ (EntryAlike (Alike types) listed) entries entries') :
    Related (Option.Rel (Params.AlikeIn types)) (Node.paramsOf (.map entries))
      (Node.paramsOf (.map entries')) := by
  have hkeys : Forall₂ (fun e e' : Value × Value => e.1 = e'.1) entries entries' :=
    h.imp fun _ _ he => he.key_eq
  rw [Node.paramsOf_typed ht,
    Node.paramsOf_typed (Entries.isSome_get?_alike hkeys (.text "type") ▸ ht)]
  refine (Params.ofEntries_alike h).map fun p p' hp hpp => .some ⟨listed, hpp, ?_⟩
  rwa [Entries.get_type_of_ofEntries hp]

/-- Contracts that are alike are the same, or their parameters are alike. -/
theorem paramsOf (h : Alike types c c') : c = c' ∨ Node.isText c = Node.isText c' ∧
    Related (Option.Rel (Params.AlikeIn types)) (Node.paramsOf c) (Node.paramsOf c') := by
  cases h with
  | same => exact .inl rfl
  | typed ht h => exact .inr ⟨rfl, paramsOf_typed ht (by simp) h⟩
  | listed ht hl h => exact .inr ⟨rfl, paramsOf_typed ht (fun _ => hl) h⟩
  | @record entries entries' ht h =>
    have hkeys : Forall₂ (fun e e' : Value × Value => e.1 = e'.1) entries entries' :=
      h.imp fun _ _ he => by cases he <;> rfl
    have ht' : Entries.get? entries' (.text "type") = none := by
      rw [← Option.not_isSome_iff_eq_none, ← Entries.isSome_get?_alike hkeys, ht]
      simp
    cases h with
    | nil => exact .inl rfl
    | @cons e e' entries entries' he h =>
      rw [Node.paramsOf_untyped ht, Node.paramsOf_untyped ht']
      have hk : Forall₂ (KeyAlike (Alike types)) (e :: entries) (e' :: entries') := .cons he h
      exact .inr ⟨rfl, .ok (.some ⟨false, .cons (.same _) (.cons (.keys rfl hk) .nil), by simp⟩)⟩

end Alike

/-- Nodes of one type, with parameters that are alike. -/
structure Node.Alike (types : Registry) (node node' : Node) : Prop where
  type : node.type = node'.type
  inline : node.inline = node'.inline
  params : node.params.AlikeIn types node'.params
  read : TypeExpr.read (node.params.get "type") = .ok node.type

/-- Contracts that are alike are the same, or they are read as nodes that are. -/
theorem Alike.ofContract {types : Registry} (h : Alike types c c') (i : Bool) : c = c' ∨
    Related (Option.Rel (Node.Alike types)) (Node.ofContract i c) (Node.ofContract i c') := by
  refine h.paramsOf.imp_right fun ⟨htext, hp⟩ => ?_
  rw [Node.ofContract, Node.ofContract, ← htext]
  refine hp.bind fun p? p'? hp => ?_
  cases hp with
  | none => exact .ok .none
  | @some p p' hp =>
    obtain ⟨listed, halike, hl⟩ := hp
    have htype : p.get "type" = p'.get "type" := (halike.get "type").eq (by decide)
    dsimp only
    rw [← htype]
    split
    · exact .ok .none
    · cases ht : TypeExpr.read (p.get "type") with
      | error e => exact .error e
      | ok t => exact .ok (.some ⟨rfl, rfl, ⟨listed, halike, hl⟩, ht⟩)

namespace Node.Alike

variable {types : Registry} {node node' : Node} (h : node.Alike types node')
include h

theorem strict (ambient : Bool) : node.strict ambient = node'.strict ambient := by
  obtain ⟨_, hp, _⟩ := h.params
  rw [Node.strict, Node.strict, h.type]
  rcases (hp.get "strict").of_flag (by decide) with he | ⟨s, b, hw, he, he'⟩
  · rw [he]
  · rw [he, he']
    cases node'.type.mode with
    | some mode => rfl
    | none => exact Flag.ofValue_text hw "strict"

theorem candidates (data : Value) : node.candidates data = node'.candidates data := by
  obtain ⟨_, hp, _⟩ := h.params
  obtain ⟨t, p, i⟩ := node
  obtain ⟨t', p', i'⟩ := node'
  obtain rfl : t = t' := h.type
  obtain rfl : i = i' := h.inline
  have hd : p.get "default" = p'.get "default" := (hp.get "default").eq (by decide)
  have hnull : nullCandidates ⟨t, p, i⟩ = nullCandidates ⟨t, p', i⟩ := by
    unfold nullCandidates defaultsToNull
    dsimp only
    rw [hd]
    rfl
  cases data with
  | null => exact hnull
  | _ => rfl

end Node.Alike

/-- The contracts that a template stands for under parameters that are alike. -/
theorem Template.expand_alike {types : Registry} (template : Template) {p p' : Params}
    (h : p.Alike (Alike types) listed p')
    (hl : listed = true → ¬types.StandsFor (Entries.spec template.contract) .enum) :
    Related (Alike types) (template.expand p) (template.expand p') := by
  have hspec (p : Params) : Entries.spec (template.contract.update (additions p).toEntries) =
      Entries.spec template.contract := by
    rw [Entries.spec, filter_type_update, ← Entries.spec]
  rw [expand, expand]
  split
  · rename_i ht
    have hkept : Forall₂ (EntryAlike (Alike types) listed) template.contract template.contract :=
      List.forall₂_same.mpr fun e _ => .same e
    have hupdate := Entries.update_alike hkept (h.additions (Alike.alikeContracts types))
    have ht' := get?_type_update template.contract p ▸ ht
    cases listed with
    | false => exact .ok (.typed ht' hupdate)
    | true => exact .ok (.listed ht' (hspec p ▸ hl rfl) hupdate)
  · exact .error _

namespace Filter

section Step

variable {types : Registry} {nested : Pass}
  (hn : ∀ c c', Alike types c c' → ∀ scope data, nested scope data c = nested scope data c')
include hn

theorem attempt_alike {node node' : Node} (h : node.Alike types node')
    (ht : token ∈ node.type.tokens) (scope : Scope) (strict : Bool) (data : Value) :
    attempt types nested scope node strict data token =
      attempt types nested scope node' strict data token := by
  obtain ⟨listed, hp, hl⟩ := h.params
  rw [attempt, attempt, ← h.inline]
  cases hlookup : types.lookup token with
  | error e => rfl
  | ok entry =>
    cases entry with
    | kind kind =>
      show types.kind token >>= _ = types.kind token >>= _
      cases hk : types.kind token with
      | error e => rfl
      | ok kind =>
        refine kind.validate_alike (fun c c' hc item => hn c c' hc _ item)
          (Alike.alikeContracts types) (fun hlist he => ?_) hp data
        exact hl hlist (.of_kind h.read ht (he ▸ Registry.lookup_of_kind hk))
    | template template =>
      refine if_congr Iff.rfl rfl ?_
      have hx := template.expand_alike hp fun hlist hs =>
        hl hlist (.of_template h.read ht hlookup hs)
      exact hx.bind_eq fun c c' hc => hn c c' hc _ data

theorem step_alike (h : Alike types c c') (scope : Scope) (data : Value) :
    step types nested scope data c = step types nested scope data c' := by
  rcases h.ofContract scope.inline with rfl | hr
  · rfl
  · refine hr.bind_eq fun node? node'? hnode => ?_
    cases hnode with
    | none => rfl
    | @some node node' hnode =>
      dsimp only
      rw [← hnode.strict, ← hnode.candidates]
      refine bind_congr fun strict => ?_
      cases hd : node.candidates data with
      | none => rfl
      | some tokens =>
        exact firstAccepted_congr (fun token ht =>
          attempt_alike hn hnode (Node.candidates_subset hd ht) scope strict data) _

omit hn in
theorem run_alike (types : Registry) (limit levels : Nat) (h : Alike types c c') (scope : Scope)
    (data : Value) :
    run types limit levels scope data c = run types limit levels scope data c' := by
  induction levels generalizing scope data c c' with
  | zero => rfl
  | succ levels ih => exact step_alike (fun _ _ hc scope data => ih hc scope data) h scope data

end Step

/-- A flag may be given as text, or as the truth value that is read from it, at whatever depth and
in whatever mode. The mandatory flag of a field alone counts by the truth of its value: any text
that is not empty makes the field mandatory. -/
theorem validate_flags {f : Filter} (h : Alike f.registry c c') (data : Value) (s : Option Bool) :
    f.validate data c s = f.validate data c' s :=
  run_alike f.registry _ _ h _ data

/-- A purchase with a count, and with marks that it may have, by its flags. -/
def purchase (clamp mandatory strict const : Value) : Value :=
  .map [(.text "count", .map [(.text "type", .text "int"), (.text "max", .int 5),
      (.text "clamp", clamp), (.text "mandatory", mandatory)]),
    (.text "marks?", .map [(.text "type", .text "array"), (.text "strict", strict),
      (.text "values", .list [.map [(.text "type", .text "bool"), (.text "const", const)],
        .text "..."])])]

theorem validate_purchase :
    initial.validate
        (.map [(.text "count", .int 3), (.text "marks", .list [.int 1, .text "new"])])
        (purchase (.text " No ") (.text "YES") (.text "0") (.text "on")) (some true) =
      .ok ⟨.map [(.text "count", .int 3), (.text "marks", .list [.bool true, .text "new"])],
        .map [(.text "count", .int 3), (.text "marks", .list [.bool true, .text "new"])]⟩ := by
  have hlist : ¬initial.registry.StandsFor (.text "array") .enum := by
    have harray : TypeExpr.read (.text "array") = .ok ⟨["array"], none, false⟩ := by decide
    have hlist : TypeExpr.read (.text "list") = .ok ⟨["list"], none, false⟩ := by decide
    rw [Registry.standsFor_iff harray]
    rintro ⟨token, ht, hl | ⟨template, hl, hr⟩⟩
    · cases List.mem_singleton.mp ht
      cases hl
    · cases List.mem_singleton.mp ht
      cases hl
      obtain ⟨token, ht, hl | ⟨template, hl, _⟩⟩ := (Registry.standsFor_iff hlist).mp hr
      · cases List.mem_singleton.mp ht
        cases hl
      · cases List.mem_singleton.mp ht
        cases hl
  have h : Alike initial.registry (purchase (.text " No ") (.text "YES") (.text "0") (.text "on"))
      (purchase (.bool false) (.bool true) (.bool false) (.bool true)) := by
    refine .record rfl (.cons (.mandatory rfl rfl rfl ?_) (.cons (.part rfl rfl ?_) .nil))
    · exact .typed rfl (.cons (.same _) (.cons (.same _)
        (.cons (.param (.flag (by decide) (by decide))) .nil)))
    · refine .listed rfl hlist (.cons (.same _) (.cons (.param (.flag (by decide) (by decide)))
        (.cons (.param (.list rfl rfl (.cons ?_ (.cons (.same _) .nil)))) .nil)))
      exact .typed rfl (.cons (.same _) (.cons (.param (.flag (by decide) (by decide))) .nil))
  exact (validate_flags h _ _).trans (by decide +kernel)

/-- A field is mandatory by the word for false too. -/
theorem validate_mandatory_word :
    Flag.ofWord? "false" = some false ∧
      initial.validate (.map []) (.map [(.text "a", .map [(.text "type", .text "int"),
          (.text "mandatory", .text "false")])]) none =
        .error (.rejected "Data doesn't respect contract (mandatory key 'a').") ∧
      initial.validate (.map []) (.map [(.text "a", .map [(.text "type", .text "int"),
          (.text "mandatory", .bool false)])]) none = .ok ⟨.map [], .map []⟩ := by
  refine ⟨by decide, by decide +kernel, by decide +kernel⟩

end Filter
end Covenant
