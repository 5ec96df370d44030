import Covenant.Proofs.Check.Parts
import Covenant.Proofs.Contract.Params
import Covenant.Proofs.Filter.Step

/-! What a contract leads to, and that nothing else matters to a run: two runs in which the same is
found there end alike. -/

namespace Covenant

variable {cut : Failure → Prop}

namespace Kind

theorem parts_put_default (kind : Kind) (params : Params) (d : Value) :
    kind.parts (params.put "default" d) = kind.parts params :=
  kind.parts_congr fun name hn =>
    (Params.AgreeOn.put_of_notMem (by decide) params d).get name hn

/-- Under the parameters that base64 holds its content to, no part has a contract. -/
theorem eq_null_of_mem_parts_content (kind : Kind) (mimes : List Value)
    (hp : part ∈ kind.parts (Check.contentParams mimes)) : part = .null := by
  have hall : ∀ kind : Kind, ∀ c ∈ kind.parts [], c = .null := by
    intro kind c hc
    cases kind with
    | list => exact List.mem_singleton.mp hc
    | json => exact List.mem_singleton.mp hc
    | _ => cases hc
  refine hall kind part (kind.parts_congr (fun name hn => ?_) ▸ hp)
  simp only [List.mem_cons, List.not_mem_nil, or_false] at hn
  unfold Check.contentParams
  split
  · rcases hn with rfl | rfl | rfl <;> rfl
  · rcases hn with rfl | rfl | rfl <;> rfl

/-- A default is checked as the data is. -/
theorem validate_refines {inner inner' : Check.Delegate} (kind : Kind)
    (hf : ∀ f, cut f → f.IsFinal) (hp : ∀ c ∈ kind.parts params, inner.Refines cut inner' c)
    (hc : kind = base64 → ∀ mimes v, Refines cut (inner.content (Check.contentParams mimes) v)
      (inner'.content (Check.contentParams mimes) v)) :
    Refines cut (kind.validate inner mode params data)
      (kind.validate inner' mode params data) := by
  have hm (m m' : String) (h : cut (.rejected m)) : cut (.rejected m') := absurd rfl (hf _ h m)
  have hcheck (p : Params) (he : kind.parts p = kind.parts params) (d : Value) :
      Refines (cut ∘ Stop.failure) (kind.check inner mode p d) (kind.check inner' mode p d) :=
    check_refines kind hm (fun c h => hp c (he ▸ h)) hc
  rw [validate, validate]
  rcases hcheck params rfl data with ⟨stop, hs, he⟩ | he
  · cases stop with
    | refused m => exact absurd rfl (hf _ hs m)
    | failed f =>
      rw [he]
      exact .inl ⟨f, hs, rfl⟩
  · rw [he]
    split
    · exact .refl _
    · exact .refl _
    · split
      · exact .refl _
      · exact .bind (.refl _) fun d =>
          Check.settle_refines (hcheck _ (kind.parts_put_default params _) d)

end Kind

namespace Node

/-- The types that data may be tried against. Null is among them where it is the only one. -/
def tried (node : Node) : List String :=
  if node.type.tokens.length > 1 then node.members else node.type.tokens

theorem mem_tried_of_member {node : Node} (h : token ∈ node.members) : token ∈ node.tried := by
  unfold tried
  split
  · exact h
  · exact List.mem_of_mem_filter h

theorem mem_tried (h : ofContract i contract = .ok (some node))
    (hc : node.candidates data = some tokens) (ht : token ∈ tokens) : token ∈ node.tried := by
  by_cases hd : data = .null
  · subst hd
    rw [candidates, nullCandidates] at hc
    split at hc
    · cases hc
      exact mem_tried_of_member ht
    · split at hc
      · cases hc
      · rename_i hn
        cases hc
        obtain ⟨spec, hread⟩ := read_of_ofContract h
        have hnull := TypeExpr.read_of_not_nullable hread (Bool.eq_false_iff.mpr hn)
        refine mem_tried_of_member (List.mem_filter.mpr ⟨ht, ?_⟩)
        rw [bne_iff_ne]
        exact fun he => hnull (he ▸ ht)
  · rw [candidates_of_ne_null hd] at hc
    cases hc
    exact ht

end Node

namespace Filter

/-- The type tokens that a contract leads to: those of its type, those of the contracts of the parts
of data, and those of the templates in its place. Content in base64 is binary. -/
inductive Reaches (types : Registry) : Value → String → Prop
  | tried (h : Node.ofContract false contract = .ok (some node)) (ht : token ∈ node.tried) :
      Reaches types contract token
  | content (h : Node.ofContract false contract = .ok (some node)) (ht : token ∈ node.tried)
      (hl : types.lookup token = .ok (.kind .base64)) : Reaches types contract "binary"
  | part (h : Node.ofContract false contract = .ok (some node)) (ht : token ∈ node.tried)
      (hl : types.lookup token = .ok (.kind kind)) (hp : part ∈ kind.parts node.params)
      (hr : Reaches types part other) : Reaches types contract other
  | template (h : Node.ofContract false contract = .ok (some node)) (ht : token ∈ node.tried)
      (hl : types.lookup token = .ok (.template template))
      (hx : template.expand node.params = .ok expanded) (hr : Reaches types expanded other) :
      Reaches types contract other

theorem not_reaches_null (types : Registry) (token : String) : ¬Reaches types .null token := by
  intro h
  cases h with
  | tried h => cases h
  | content h => cases h
  | part h => cases h
  | template h => cases h

/-- The failure of an alias that is expanded once more on the way to a contract. -/
def aliasCycle (token : String) : Failure :=
  .malformed ("Alias cycle detected on type '" ++ token ++ "'.")

/-- From a contract, two runs meet the same types. Only the first one may be cut short, at an alias
that it alone has expanded on the way to the contract. -/
structure Meets (cut : Failure → Prop) (types types' : Registry) (expanded expanded' : List String)
    (contract : Value) : Prop where
  lookup : ∀ token, Reaches types contract token → types.lookup token = types'.lookup token
  subset : expanded' ⊆ expanded
  cycle : ∀ token, Reaches types contract token → token ∈ expanded → token ∉ expanded' →
    cut (aliasCycle token)

namespace Meets

variable {types types' : Registry}

theorem null : Meets cut types types' [] [] .null :=
  ⟨fun token h => absurd h (not_reaches_null types token), List.Subset.refl _,
    fun _ _ h => absurd h List.not_mem_nil⟩

/-- On the way to a part of the data, no alias has been expanded. -/
theorem of_part (h : Meets cut types types' expanded expanded' contract)
    (hr : ∀ token, Reaches types part token → Reaches types contract token) :
    Meets cut types types' [] [] part :=
  ⟨fun token ht => h.lookup token (hr token ht), List.Subset.refl _,
    fun _ _ ht => absurd ht List.not_mem_nil⟩

theorem of_template (h : Meets cut types types' expanded expanded' contract)
    (hr : ∀ token, Reaches types behind token → Reaches types contract token) (name : String) :
    Meets cut types types' (name :: expanded) (name :: expanded') behind := by
  refine ⟨fun token ht => h.lookup token (hr token ht), List.cons_subset_cons name h.subset,
    fun token ht hm hn => ?_⟩
  rw [List.mem_cons, not_or] at hn
  exact h.cycle token (hr token ht) ((List.mem_cons.mp hm).resolve_left hn.1) hn.2

end Meets

theorem firstAccepted_refines {each each' : String → Except Failure Result}
    (hf : ∀ f, cut f → f.IsFinal) (message : String) (tokens : List String)
    (h : ∀ token ∈ tokens, Refines cut (each token) (each' token)) :
    Refines cut (firstAccepted each message tokens) (firstAccepted each' message tokens) := by
  induction tokens generalizing message with
  | nil => exact .refl _
  | cons token tokens ih =>
    rw [List.forall_mem_cons] at h
    rw [firstAccepted, firstAccepted]
    rcases h.1 with ⟨f, hc, he⟩ | he
    · rw [he]
      cases f with
      | rejected m => exact absurd rfl (hf _ hc m)
      | malformed m => exact .of_cut hc _
      | crashed fault => exact .of_cut hc _
    · rw [he]
      split
      · exact ih _ h.2
      · exact .refl _

/-- A pass ends as another one does on contracts from which both meet the same, unless it is cut
short. -/
def Pass.Follows (cut : Failure → Prop) (types types' : Registry) (pass pass' : Pass) : Prop :=
  ∀ strict inline expanded expanded' contract, Meets cut types types' expanded expanded' contract →
    ∀ data, Refines cut (pass ⟨strict, inline, expanded⟩ data contract)
      (pass' ⟨strict, inline, expanded'⟩ data contract)

theorem kind_eq_of_lookup {types types' : Registry} (hs : types.sound = types'.sound)
    (h : types.lookup token = types'.lookup token) : types.kind token = types'.kind token := by
  rw [Registry.kind, Registry.kind, h, hs]

section Step

variable {types types' : Registry} {nested nested' : Pass} {node : Node}
  (hf : ∀ f, cut f → f.IsFinal) (hs : types.sound = types'.sound)
  (hn : nested.Follows cut types types' nested')
include hf hs hn

theorem content_follows (h : types.lookup "binary" = types'.lookup "binary") (inline : Bool)
    (mimes : List Value) (data : Value) :
    Refines cut (content types nested inline (Check.contentParams mimes) data)
      (content types' nested' inline (Check.contentParams mimes) data) := by
  rw [content, content, kind_eq_of_lookup hs h]
  refine .bind (.refl _) fun kind => kind.validate_refines hf (fun c hc item => ?_)
    fun _ _ _ => .refl _
  rw [kind.eq_null_of_mem_parts_content mimes hc]
  exact hn _ _ _ _ _ .null item

theorem attempt_follows (hc : Node.ofContract i contract = .ok (some node))
    (hm : Meets cut types types' expanded expanded' contract) (ht : token ∈ node.tried)
    (strict : Bool) (data : Value) :
    Refines cut (attempt types nested ⟨ambient, i, expanded⟩ node strict data token)
      (attempt types' nested' ⟨ambient, i, expanded'⟩ node strict data token) := by
  have hread := Node.ofContract_inline hc false
  have hlookup := hm.lookup token (.tried hread ht)
  rw [attempt, attempt, ← hlookup, ← kind_eq_of_lookup hs hlookup]
  refine .bind_of (.refl _) fun entry hl => ?_
  cases entry with
  | template template =>
    dsimp only
    simp only [List.contains_iff_mem]
    by_cases hx' : token ∈ expanded'
    · rw [if_pos hx', if_pos (hm.subset hx')]
      exact .refl _
    · rw [if_neg hx']
      by_cases hx : token ∈ expanded
      · rw [if_pos hx]
        exact .of_cut (hm.cycle token (.tried hread ht) hx hx') _
      · rw [if_neg hx]
        refine .bind_of (.refl _) fun behind hb => ?_
        exact hn _ _ _ _ _ (hm.of_template (fun _ hr => .template hread ht hl hb hr) token) data
  | kind _ =>
    refine .bind_of (.refl _) fun kind hk => ?_
    have hl := Registry.lookup_of_kind hk
    refine kind.validate_refines hf (fun part hp item => ?_) ?_
    · exact hn _ _ _ _ _ (hm.of_part fun _ hr => .part hread ht hl hp hr) item
    · rintro rfl mimes v
      exact content_follows hf hs hn (hm.lookup _ (.content hread ht hl)) node.inline mimes v

theorem step_follows : Pass.Follows cut types types' (step types nested) (step types' nested') := by
  intro strict inline expanded expanded' contract hm data
  rw [step, step]
  refine .bind_of (.refl _) fun node? hc => ?_
  cases node? with
  | none => exact .refl _
  | some node =>
    refine .bind (.refl _) fun strict' => ?_
    cases hd : node.candidates data with
    | none => exact .refl _
    | some tokens =>
      exact firstAccepted_refines hf _ _ fun token ht =>
        attempt_follows hf hs hn hc hm (Node.mem_tried hc hd ht) strict' data

omit hn in
/-- A run ends as another one does in which the same is found, unless it is cut short. It may have
fewer levels than the other one if it may be cut short by its limit. -/
theorem run_follows (hl : levels ≤ levels')
    (hd : cut (tooDeep limit) ∨ levels = levels' ∧ limit = limit') :
    Pass.Follows cut types types' (run types limit levels) (run types' limit' levels') := by
  -- On the levels of the run that may be cut short; the other one has a level wherever it has.
  induction levels generalizing levels' with
  | zero =>
    intro strict inline expanded expanded' contract _ data
    rcases hd with hd | ⟨rfl, rfl⟩
    · exact .of_cut hd _
    · exact .refl _
  | succ levels ih =>
    obtain ⟨levels', rfl⟩ := Nat.exists_eq_succ_of_ne_zero (Nat.ne_zero_of_lt hl)
    exact step_follows hf hs (ih (Nat.le_of_succ_le_succ hl)
      (hd.imp_right fun h => ⟨Nat.succ.inj h.1, h.2⟩))

end Step

end Filter
end Covenant
