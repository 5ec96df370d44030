import Covenant.Proofs.Check.Loose
import Covenant.Proofs.Check.Parts
import Covenant.Proofs.Filter.Fault
import Covenant.Proofs.Template

/-! What is let through strictly is let through loosely, and comes to the same. -/

namespace Covenant

namespace Node

variable {node : Node}

/-- The contracts of the parts of data, by the types of a node that are there at first. -/
def parts (node : Node) : List Value :=
  node.members.flatMap fun token =>
    (Registry.bare? token).elim [] fun bare => bare.1.parts node.params

/-- A node of one type that is there at first, or of null alone, without a default. -/
structure OneTyped (node : Node) : Prop where
  single : node.members.length ≤ 1
  bare : ∀ token ∈ node.members,
    (Registry.bare? token).any fun bare => bare.1 ∉ [Kind.float, Kind.phone, Kind.slug]
  default : node.params.get "default" = .null

theorem oneTyped_iff : node.OneTyped ↔ node.members.length ≤ 1 ∧
    (∀ token ∈ node.members,
      (Registry.bare? token).any fun bare => bare.1 ∉ [Kind.float, Kind.phone, Kind.slug]) ∧
    node.params.get "default" = .null :=
  ⟨fun h => ⟨h.single, h.bare, h.default⟩, fun ⟨hs, hb, hd⟩ => ⟨hs, hb, hd⟩⟩

instance : Decidable node.OneTyped := decidable_of_iff _ oneTyped_iff.symm

theorem mem_parts {kind : Kind} (hm : token ∈ node.members)
    (hb : Registry.bare? token = some (kind, given)) (hp : part ∈ kind.parts node.params) :
    part ∈ node.parts := by
  rw [parts, List.mem_flatMap]
  refine ⟨token, hm, ?_⟩
  rw [hb]
  exact hp

theorem strict_cases (node : Node) :
    node.strict true = node.strict false ∨
      (node.strict true = .ok true ∧ node.strict false = .ok false) := by
  unfold strict
  split
  · exact .inl rfl
  · exact .inr ⟨rfl, rfl⟩
  · exact .inl rfl

/-- Data is tried against the members of a node, or against null alone. -/
theorem candidates_eq (h : ofContract i contract = .ok (some node))
    (hc : node.candidates data = some tokens) :
    tokens = node.members ∨ tokens = [TypeExpr.nullToken] := by
  by_cases hd : data = .null
  · subst hd
    left
    rw [candidates, nullCandidates] at hc
    split at hc
    · exact (Option.some.inj hc).symm
    · split at hc
      · cases hc
      · rename_i hn
        have hnull := TypeExpr.read_of_not_nullable (ofContract_eq_ok h).2.2.1
          (Bool.eq_false_iff.mpr hn)
        rw [← Option.some.inj hc, members, List.filter_eq_self.mpr]
        intro t ht
        rw [bne_iff_ne]
        exact fun he => hnull (he ▸ ht)
  · rw [candidates_of_ne_null hd] at hc
    have hc := Option.some.inj hc
    split at hc
    · exact .inl hc.symm
    · rename_i hl
      rw [hc] at hl
      rw [members, hc]
      rcases tokens with _ | ⟨t, _ | ⟨t', rest⟩⟩
      · exact .inl rfl
      · by_cases ht : t = TypeExpr.nullToken
        · exact .inr (by rw [ht])
        · exact .inl (by simp [ht])
      · exact absurd (by simp) hl

/-- Data is tried against one type that is there at first, if against any. -/
theorem OneTyped.candidates (h : node.OneTyped) (hn : ofContract i contract = .ok (some node))
    (hc : node.candidates data = some tokens) :
    tokens = [] ∨ ∃ token kind given, tokens = [token] ∧
      Registry.bare? token = some (kind, given) ∧ kind ∉ [Kind.float, Kind.phone, Kind.slug] ∧
      ∀ part ∈ kind.parts node.params, part ∈ node.parts := by
  rcases candidates_eq hn hc with rfl | rfl
  · have hs := h.single
    cases hm : node.members with
    | nil => exact .inl rfl
    | cons token rest =>
      right
      obtain rfl : rest = [] := by
        rw [hm] at hs
        simpa using hs
      have hmem : token ∈ node.members := by simp [hm]
      have hbare := h.bare token hmem
      cases hb : Registry.bare? token with
      | none =>
        rw [hb] at hbare
        cases hbare
      | some bare =>
        rw [hb] at hbare
        exact ⟨token, bare.1, bare.2, rfl, hb, by simpa using hbare, fun part => mem_parts hmem hb⟩
  · have hb : Registry.bare? TypeExpr.nullToken = some (.null, []) := by decide
    exact .inr ⟨_, .null, [], rfl, hb, by decide, fun part hp => by cases hp⟩

end Node

namespace Filter

/-- Contracts whose nodes all have one type, without a default. -/
inductive OneTyped : Value → Prop
  | intro (hn : ∀ node, Node.ofContract false contract = .ok (some node) → node.OneTyped)
      (hp : ∀ node, Node.ofContract false contract = .ok (some node) →
        ∀ part ∈ node.parts, OneTyped part) : OneTyped contract

/-- Whether the nodes of a contract, of so many levels at most, all have one type. -/
def isOneTyped : Nat → Value → Bool
  | 0, _ => false
  | levels + 1, contract =>
    match Node.ofContract false contract with
    | .ok (some node) => decide node.OneTyped && node.parts.all (isOneTyped levels)
    | _ => true

theorem OneTyped.of_isOneTyped (h : isOneTyped levels contract = true) : OneTyped contract := by
  induction levels generalizing contract with
  | zero => cases h
  | succ levels ih =>
    rw [isOneTyped] at h
    constructor
    · intro node hn
      rw [hn] at h
      exact of_decide_eq_true (Bool.and_eq_true_iff.mp h).1
    · intro node hn part hp
      rw [hn] at h
      exact ih (List.all_eq_true.mp (Bool.and_eq_true_iff.mp h).2 part hp)

theorem OneTyped.node {node : Node} (h : OneTyped contract)
    (hn : Node.ofContract i contract = .ok (some node)) :
    node.OneTyped ∧ ∀ part ∈ node.parts, OneTyped part := by
  have hf := Node.ofContract_inline hn false
  cases h with
  | intro hnode hparts =>
    obtain ⟨hs, hb, hd⟩ := hnode _ hf
    have hp := hparts _ hf
    exact ⟨⟨hs, hb, hd⟩, hp⟩

/-- What the templates that are there at first leave open. -/
theorem templates_open (h : Registry.templates.get? token = some template) :
    template.Canonical ∧ ∀ name ∈ ["default", "values", "contract", "keys"],
      Named.get? template name = none := by
  have hall : ∀ e ∈ Registry.templates, (e.2.map (·.1)).Nodup ∧
      (∀ p ∈ e.2, Params.canonicalName p.1 = p.1) ∧
      ∀ name ∈ ["default", "values", "contract", "keys"], Named.get? e.2 name = none := by
    decide
  obtain ⟨hd, hn, hopen⟩ := hall _ (Named.mem_of_get? h)
  exact ⟨⟨hd, hn⟩, hopen⟩

theorem templates_get (ht : Registry.templates.get? token = some template) (hc : given.Canonical)
    (hn : name ∈ ["default", "values", "contract", "keys"]) :
    Params.get (template.update (Template.additions given)) name = given.get name := by
  have hne : ∀ name ∈ ["default", "values", "contract", "keys"],
      name ≠ "type" ∧ name ≠ "strict" := by decide
  exact Template.get_update_additions hc ((templates_open ht).2 name hn) (hne name hn).1
    (hne name hn).2

/-- The contract that a template stands for has the type of the template alone. -/
theorem templates_node (ht : Registry.templates.get? token = some (("type", .text base) :: params))
    (hc : given.Canonical) (i : Bool) :
    Node.ofContract i (Params.toValue
        (Named.update (("type", .text base) :: params) (Template.additions given))) =
      .ok (some ⟨⟨[base], none, false⟩,
        Named.update (("type", .text base) :: params) (Template.additions given), i⟩) := by
  obtain ⟨_, _, _, hread, _, hne⟩ := Registry.templates_read ht
  refine Node.ofContract_toValue (Template.canonical_update (templates_open ht).1 hc) ?_ hne hread i
  rw [Params.get, Template.get?_type_update_additions hc, Named.get?_cons_self, Option.getD_some]

theorem bare?_of_byToken (h : Kind.byToken.get? token = some kind) :
    Registry.bare? token = some (kind, []) := by
  rw [Registry.bare?, h]

/-- The contract that a template stands for has one type where the contract that names it has. -/
theorem OneTyped.of_template
    (ht : Registry.templates.get? token = some (("type", .text base) :: params))
    (hk : Kind.byToken.get? base = some kind)
    (hkind : kind ∉ [Kind.float, Kind.phone, Kind.slug]) (hc : given.Canonical)
    (hd : given.get "default" = .null) (hp : ∀ part ∈ kind.parts given, OneTyped part) :
    OneTyped (Params.toValue
      (Named.update (("type", .text base) :: params) (Template.additions given))) := by
  obtain ⟨_, _, _, _, hnull, _⟩ := Registry.templates_read ht
  have hnode := templates_node ht hc false
  have hmembers : List.filter (· != TypeExpr.nullToken) [base] = [base] := by simp [hnull]
  constructor
  · intro node hn
    cases hnode.symm.trans hn
    refine ⟨?_, ?_, (templates_get ht hc (by simp)).trans hd⟩
    · rw [Node.members, hmembers]
      exact Nat.le_refl 1
    · intro token hm
      rw [Node.members, hmembers, List.mem_singleton] at hm
      rw [hm, bare?_of_byToken hk]
      simpa using hkind
  · intro node hn part hm
    cases hnode.symm.trans hn
    rw [Node.parts, Node.members, hmembers, List.flatMap_singleton, bare?_of_byToken hk] at hm
    -- The parameters that the parts depend on are open in every template.
    refine hp part (kind.parts_congr (fun name hname => templates_get ht hc ?_) ▸ hm)
    exact List.mem_cons_of_mem _ hname

/-- What the strict mode makes of data by a contract of such nodes, the loose mode makes of it. -/
def Loosens (pass : Pass) : Prop :=
  ∀ contract, OneTyped contract → ∀ inline expanded data,
    Extends (pass ⟨true, inline, expanded⟩ data contract)
      (pass ⟨false, inline, expanded⟩ data contract)

/-- The types that are there at first stand for what they stood for then. -/
def KeepsInitial (types : Registry) : Prop :=
  ∀ token entry, Registry.initial.lookup token = .ok entry → types.lookup token = .ok entry

/-- A kind is found under its token alone. -/
theorem kind_of_lookup {types : Registry} (hl : types.lookup token = .ok (.kind kind))
    (h : types.kind token = .ok kind') : kind' = kind := by
  simp only [Registry.kind, hl, bind, Except.bind] at h
  split at h
  · cases h
    rfl
  · cases h

theorem lookup_of_byToken (h : Kind.byToken.get? token = some kind) :
    Registry.initial.lookup token = .ok (.kind kind) :=
  Registry.lookup_of_kind (Registry.kind_of_byToken h)

section Step

variable {types : Registry} {nested : Pass} {node : Node} (ht : KeepsInitial types)
  (hn : Loosens nested)
include hn

theorem validate_loose (hk : kind ∉ [Kind.float, Kind.phone, Kind.slug])
    (hd : params.get "default" = .null) (hp : ∀ c ∈ kind.parts params, OneTyped c) (i : Bool)
    (data : Value) :
    Extends (kind.validate (delegate types nested ⟨true, i⟩) ⟨true, i⟩ params data)
      (kind.validate (delegate types nested ⟨false, i⟩) ⟨false, i⟩ params data) := by
  rw [Kind.validate_without_default hd, Kind.validate_without_default hd]
  have hparts : Refines ((fun _ => True) ∘ Stop.failure)
      (kind.check (delegate types nested ⟨true, i⟩) ⟨true, i⟩ params data)
      (kind.check (delegate types nested ⟨false, i⟩) ⟨true, i⟩ params data) :=
    kind.check_refines (fun _ _ h => h) (fun c hc item => hn c (hp c hc) false [] item)
      fun _ _ _ => .refl _
  exact Check.settle_refines (hparts.trans (kind.check_loose hk i))

include ht

/-- One type of a node that is there at first, tried in both modes. -/
theorem attempt_loose (hc : node.params.Canonical) (hd : node.params.get "default" = .null)
    (hb : Registry.bare? token = some (kind, params))
    (hk : kind ∉ [Kind.float, Kind.phone, Kind.slug])
    (hp : ∀ c ∈ kind.parts node.params, OneTyped c) (i : Bool) (expanded : List String)
    (data : Value) :
    Extends (attempt types nested ⟨true, i, expanded⟩ node true data token)
      (attempt types nested ⟨false, i, expanded⟩ node false data token) := by
  rcases Registry.bare?_cases hb with ⟨rfl, hkind⟩ | ⟨hkind, base, htemplate, hbase⟩
  · have hl := ht token _ (lookup_of_byToken hkind)
    rw [attempt, attempt, hl]
    show Extends (types.kind token >>= _) (types.kind token >>= _)
    refine .bind_of (.refl _) fun kind' hkind' => ?_
    cases kind_of_lookup hl hkind'
    exact validate_loose hn hk hd hp node.inline data
  · have hl := ht token _ (Registry.lookup_of_templates hkind htemplate)
    rw [attempt, attempt, hl]
    refine .ite (.refl _) (.bind_of (.refl _) fun contract hx => ?_)
    rw [Template.expand_toEntries (Named.get?_cons_self "type" _ params)] at hx
    cases hx
    exact hn _ (.of_template htemplate hbase hk hc hd hp) _ _ data

theorem step_loose : Loosens (step types nested) := by
  intro contract hcontract i expanded data
  rw [step, step]
  refine .bind_of (.refl _) fun node? hnode => ?_
  cases node? with
  | none => exact .refl _
  | some node =>
    obtain ⟨hone, hparts⟩ := hcontract.node hnode
    have hcan := Node.canonical_of_ofContract hnode
    -- A node with a mode of its own has the same one in both runs; its parts are then tried alike.
    rcases node.strict_cases with hs | ⟨hs, hs'⟩
    · dsimp only
      rw [hs]
      exact .refl _
    · dsimp only
      rw [hs, hs']
      cases hc : node.candidates data with
      | none => exact .refl _
      | some tokens =>
        rcases hone.candidates hnode hc with rfl | ⟨token, kind, given, rfl, hb, hk, hp⟩
        · exact .refl _
        · show Extends (firstAccepted _ noTypeLeft [token]) (firstAccepted _ noTypeLeft [token])
          rw [firstAccepted_single, firstAccepted_single]
          exact attempt_loose ht hn hcan hone.default hb hk (fun c hc => hparts c (hp c hc)) i
            expanded data

omit hn in
theorem run_loose (limit levels : Nat) : Loosens (run types limit levels) := by
  induction levels with
  | zero => exact fun contract _ inline expanded data => .refl _
  | succ levels ih => exact step_loose ht ih

end Step

/-- What comes of data in the strict mode, by a contract whose nodes have one type each, comes of it
in the loose mode. -/
theorem validate_false_of_true {f : Filter} (ht : KeepsInitial f.registry)
    (hc : OneTyped contract) (h : f.validate data contract (some true) = .ok r) :
    f.validate data contract (some false) = .ok r :=
  (run_loose ht _ _ contract hc false [] data).eq_ok h

def sizes : Value := .map [(.text "type", .text "array"), (.text "values", .text "int, ~int, ...")]

def notes : Value :=
  .map [(.text "type", .text "json"), (.text "contract", .text "list; contract: \"?string\"")]

/-- A parcel has an id, sizes and notes, and it may have flags. -/
def parcel : Value :=
  .map [(.text "id", .text "uuid"), (.text "sizes", sizes), (.text "notes?", notes),
    (.text "...", .text "bool")]

def parcelOf : Value :=
  .map [(.text "id", .text "12345678-1234-5678-1234-567812345678"),
    (.text "sizes", .list [.int 3, .int 4, .text "large"]), (.text "notes", .text "[\"left\", null]"),
    (.text "paid", .bool true)]

theorem validate_parcel :
    initial.validate parcelOf parcel (some false) = .ok ⟨parcelOf, parcelOf⟩ :=
  validate_false_of_true (fun _ _ h => h)
    (.of_isOneTyped (show isOneTyped 4 parcel = true by decide +kernel)) (by decide +kernel)

end Filter
end Covenant
