import Covenant.Proofs.Contract.Final
import Covenant.Proofs.Filter.Reach
import Covenant.Proofs.Registry.Table
import Covenant.Proofs.Template
import Covenant.Proofs.Value.Equality

/-! Data is never filtered by a contract that leads from template to template without end. -/

namespace Covenant

/-- The first type of a contract, null apart, is one of those given, if the contract can be read.
Reading it takes no wrong step, as the name of a parameter does that is no text. -/
structure LeadsInto (loop : Set String) (contract : Value) : Prop where
  reads : ∀ fault, Node.ofContract false contract ≠ .error (.crashed fault)
  first : ∀ node?, Node.ofContract false contract = .ok node? →
    ∃ node, node? = some node ∧ ∃ token ∈ loop, node.members.head? = some token

/-- The given tokens stand for templates with a type that lead to them again. -/
def Registry.Loops (types : Registry) (loop : Set String) : Prop :=
  ∀ token ∈ loop, ∃ template, types.lookup token = .ok (.template template) ∧ template.IsTyped ∧
    LeadsInto loop (.map template.contract)

namespace LeadsInto

variable {loop : Set String}

theorem of_node {node : Node} (hc : Node.ofContract false contract = .ok (some node))
    (ht : token ∈ loop) (hm : node.members.head? = some token) : LeadsInto loop contract := by
  refine ⟨fun fault he => ?_, fun node? hn => ?_⟩
  · cases hc.symm.trans he
  · cases hc.symm.trans hn
    exact ⟨node, rfl, token, ht, hm⟩

theorem cases (h : LeadsInto loop contract) (i : Bool) :
    (∃ m, Node.ofContract i contract = .error (.malformed m)) ∨
      ∃ node, Node.ofContract i contract = .ok (some node) ∧
        ∃ token ∈ loop, ∃ rest, node.members = token :: rest := by
  rw [Node.ofContract_eq_map]
  cases ho : Node.ofContract false contract with
  | error e =>
    cases e with
    | malformed m => exact .inl ⟨m, rfl⟩
    | rejected m => exact absurd rfl (Node.ofContract_final false contract _ ho m)
    | crashed fault => exact absurd ho (h.reads fault)
  | ok node? =>
    obtain ⟨node, rfl, token, ht, hhead⟩ := h.first node? ho
    exact .inr ⟨_, rfl, token, ht, List.head?_eq_some_iff.mp hhead⟩

/-- A contract that is read with the same type leads to the same tokens. -/
theorem of_type {other : Value} {params params' : Params} (h : LeadsInto loop contract)
    (hp : Node.paramsOf contract = .ok (some params))
    (hp' : Node.paramsOf other = .ok (some params'))
    (ht : params'.get "type" = params.get "type") : LeadsInto loop other := by
  obtain ⟨hreads, hfirst⟩ := h
  rw [Node.ofContract_of_paramsOf hp] at hreads hfirst
  have hother := Node.ofContract_of_paramsOf hp' false
  rw [ht] at hother
  split at hother
  · rename_i ha
    obtain ⟨_, hnone, _⟩ := hfirst none (if_pos ha)
    cases hnone
  · rename_i ha
    rw [if_neg ha] at hreads hfirst
    cases hr : TypeExpr.read (params.get "type") with
    | error e =>
      rw [hr] at hreads hother
      refine ⟨fun fault he => hreads fault (hother.symm.trans he), fun node? hn => ?_⟩
      cases hother.symm.trans hn
    | ok t =>
      rw [hr] at hfirst hother
      obtain ⟨node, hnode, token, ht, hhead⟩ := hfirst _ rfl
      cases hnode
      refine ⟨fun fault he => ?_, fun node? hn => ?_⟩
      · cases hother.symm.trans he
      · cases hother.symm.trans hn
        exact ⟨_, rfl, token, ht, hhead⟩

/-- The parameters of a contract do not change where the template that it names leads. -/
theorem expand {template : Template} (h : LeadsInto loop (.map template.contract))
    (ht : template.IsTyped) (given : Params) :
    ∃ contract, template.expand given = .ok contract ∧ LeadsInto loop contract := by
  have hsome : (template.contract.get? (.text "type")).isSome := by
    rw [Option.isSome_iff_ne_none]
    intro hn
    rw [Template.IsTyped, hn] at ht
    cases ht
  refine ⟨_, if_pos hsome, ?_⟩
  have hread := Node.paramsOf_typed hsome
  cases hp : Params.ofEntries template.contract with
  | error e =>
    rw [hp] at hread
    obtain ⟨fault, rfl⟩ := Params.ofEntries_crashes _ e hp
    refine absurd ?_ (h.reads fault)
    rw [Node.ofContract, hread]
    rfl
  | ok params =>
    obtain ⟨merged, hm, htype⟩ := Template.exists_ofEntries_update hp given
    have hread' := Node.paramsOf_typed ((Template.get?_type_update _ given).symm ▸ hsome)
    rw [hp] at hread
    rw [hm] at hread'
    exact h.of_type hread hread' htype

end LeadsInto

namespace Filter

/-- No data but null is filtered by a contract that leads into the given tokens: the contract is
malformed. -/
def Pass.Blames (loop : Set String) (pass : Pass) : Prop :=
  ∀ contract, LeadsInto loop contract → ∀ scope data, data ≠ .null →
    ∃ m, pass scope data contract = .error (.malformed m)

section Step

variable {types : Registry} {nested : Pass} {loop : Set String} (hl : types.Loops loop)
  (hn : nested.Blames loop)
include hl hn

theorem attempt_blames (hd : data ≠ .null) (ht : token ∈ loop) (scope : Scope) (node : Node)
    (strict : Bool) :
    ∃ m, attempt types nested scope node strict data token = .error (.malformed m) := by
  obtain ⟨template, hlookup, htyped, hleads⟩ := hl token ht
  obtain ⟨contract, hx, hcontract⟩ := hleads.expand htyped node.params
  by_cases he : token ∈ scope.expanded
  · have hcycle : attempt types nested scope node strict data token =
        .error (aliasCycle token) := by
      simp only [attempt, hlookup, bind, Except.bind]
      exact if_pos (List.contains_iff_mem.mpr he)
    exact ⟨_, hcycle⟩
  · rw [attempt_template hlookup he hx]
    exact hn contract hcontract _ data hd

theorem step_blames : Pass.Blames loop (step types nested) := by
  intro contract hc scope data hd
  rcases hc.cases scope.inline with ⟨m, hread⟩ | ⟨node, hread, token, ht, rest, hm⟩
  · refine ⟨m, ?_⟩
    rw [step, hread]
    rfl
  · cases hs : node.strict scope.strict with
    | error e =>
      have hmode : FailsAs (fun e => ∃ m, e = .malformed m) (node.strict scope.strict) :=
        Node.strict_fails (fun m => ⟨m, rfl⟩) _ _
      obtain ⟨m, rfl⟩ := hmode e hs
      refine ⟨m, ?_⟩
      simp only [step, hread, hs, bind, Except.bind]
    | ok strict =>
      have hcand := Node.candidates_of_data hd (by rw [hm]; exact List.cons_ne_nil _ _)
      obtain ⟨m, ha⟩ := attempt_blames hl hn hd ht scope node strict
      refine ⟨m, ?_⟩
      rw [step_of_node hread hs hcand, hm, firstAccepted, ha]

omit hn in
theorem run_blames (limit levels : Nat) : Pass.Blames loop (run types limit levels) := by
  induction levels with
  | zero => exact fun _ _ _ _ _ => ⟨_, rfl⟩
  | succ levels ih => exact step_blames hl ih

end Step

/-- A filter with a hen and an egg, each of which may be the other one first. -/
def coop : Filter :=
  ⟨initial.config, Registry.initial.publish
    [("hen", .template ⟨[(.text "type", .text "=?egg|int")], false⟩),
      ("egg", .template ⟨[(.text "type", .list [.text "null", .text "hen"]),
        (.text "strict", .text "no")], true⟩)]⟩

theorem coop_loops : coop.registry.Loops {"hen", "egg"} := by
  intro token ht
  rcases ht with rfl | rfl
  · exact ⟨_, rfl, by decide, .of_node rfl (.inr rfl) rfl⟩
  · exact ⟨_, rfl, by decide, .of_node rfl (.inl rfl) rfl⟩

/-- A filter with an alias for itself. -/
def ouroboros : Filter :=
  ⟨initial.config, Registry.initial.publish
    [("tail", .template ⟨[(.text "type", .text "tail")], false⟩)]⟩

end Filter
end Covenant
