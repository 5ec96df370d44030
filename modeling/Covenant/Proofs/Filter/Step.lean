import Covenant.Filter.Basic
import Covenant.Proofs.Check.Parameters
import Covenant.Proofs.Contract.Node
import Covenant.Proofs.Contract.Union
import Covenant.Proofs.Outcome

/-! One step of filtering, by how a contract and its type are read. -/

namespace Covenant

/-- The types that are there at first. -/
def Registry.initial : Registry := ⟨builtin, true, []⟩

/-- The filter without aliases, in the loose mode unless another one is given. -/
def Filter.initial : Filter := ⟨⟨false, 64, [], .warning⟩, .initial⟩

theorem Registry.lookup_of_kind {types : Registry} (h : types.kind token = .ok k) :
    types.lookup token = .ok (.kind k) := by
  obtain ⟨entry, hl, h⟩ := bind_eq_ok.mp h
  cases entry with
  | template t => cases h
  | kind k' =>
    dsimp only at h
    split at h
    · cases h
      exact hl
    · cases h

/-- A parameter that a check does not look at does not matter to it. -/
theorem Kind.validate_cons {inner : Check.Delegate} {params : Params} {kind : Kind}
    (hn : name ∉ kind.parameters) (hd : name ≠ "default") (v : Value) :
    kind.validate inner mode ((name, v) :: params) data =
      kind.validate inner mode params data := by
  have hc (p : Params) (d : Value) :
      kind.check inner mode ((name, v) :: p) d = kind.check inner mode p d :=
    kind.check_congr (.cons_of_notMem hn v p)
  have hg : Params.get ((name, v) :: params) "default" = params.get "default" :=
    Params.get_cons_ne hd params v
  have hp : Named.put ((name, v) :: params) "default" .null =
      (name, v) :: params.put "default" .null := Named.put_cons_ne hd v params .null
  simp only [validate, hc, hg, hp]

theorem Kind.validate_type_cons {inner : Check.Delegate} {params : Params} (kind : Kind)
    (v : Value) :
    kind.validate inner mode (("type", v) :: params) data =
      kind.validate inner mode params data :=
  validate_cons kind.type_notMem_parameters (by decide) v

namespace Node

variable {node : Node}

/-- A union without null is tried as a whole, whatever the data. -/
theorem candidates_of_no_null (h : TypeExpr.nullToken ∉ node.type.tokens)
    (hn : node.type.nullable = false) (data : Value) :
    node.candidates data = some node.type.tokens := by
  have hm : node.members = node.type.tokens := by
    rw [members, List.filter_eq_self]
    intro t ht
    rw [bne_iff_ne]
    exact fun he => h (he ▸ ht)
  cases data with
  | null =>
    rw [candidates, nullCandidates, hm, hn]
    split
    · rfl
    · rfl
  | _ => exact congrArg some (by rw [hm, ite_self])

theorem candidates_of_ne_null (hd : data ≠ .null) (node : Node) : node.candidates data =
    some (if node.type.tokens.length > 1 then node.members else node.type.tokens) := by
  cases data with
  | null => exact absurd rfl hd
  | _ => rfl

/-- Data other than null is tried against the other members of a union. -/
theorem candidates_of_data (hd : data ≠ .null) (hm : node.members ≠ []) :
    node.candidates data = some node.members := by
  have hl : (if node.type.tokens.length > 1 then node.members else node.type.tokens) =
      node.members := by
    split
    · rfl
    · rename_i hlt
      have hp : 0 < node.members.length := List.length_pos_iff.mpr hm
      exact (List.filter_sublist.eq_of_length_le (by rw [← members]; omega)).symm
  cases data with
  | null => exact absurd rfl hd
  | _ => exact congrArg some hl

/-- Data is tried against types of the node alone. -/
theorem candidates_subset (h : node.candidates data = some tokens) :
    tokens ⊆ node.type.tokens := by
  have hm : node.members ⊆ node.type.tokens := List.filter_subset_self _
  by_cases hd : data = .null
  · subst hd
    rw [candidates, nullCandidates] at h
    split at h
    · cases h
      exact hm
    · split at h
      · cases h
      · cases h
        exact List.Subset.refl _
  · rw [candidates_of_ne_null hd] at h
    cases h
    split
    · exact hm
    · exact List.Subset.refl _

/-- Data is tried against the one type of a node, but for null that is accepted right away. -/
theorem candidates_of_single (h : ofContract i contract = .ok (some node))
    (hm : node.members = [token]) (data : Value) :
    node.candidates data = some [token] ∨ data = .null ∧ node.candidates data = none := by
  by_cases hd : data = .null
  · subst hd
    have hs : node.candidates .null = some node.members ∨ node.candidates .null = none := by
      rw [candidates, nullCandidates]
      split
      · exact .inl rfl
      · split
        · exact .inr rfl
        · rename_i hn
          obtain ⟨spec, ht⟩ := read_of_ofContract h
          have hnull := TypeExpr.read_of_not_nullable ht (Bool.eq_false_iff.mpr hn)
          refine .inl (congrArg some (List.filter_eq_self.mpr fun t ht => ?_).symm)
          rw [bne_iff_ne]
          exact fun he => hnull (he ▸ ht)
    rw [← hm]
    exact hs.imp_right fun hs => ⟨rfl, hs⟩
  · exact .inl (hm ▸ candidates_of_data hd (by simp [hm]))

end Node

namespace Filter

variable {types : Registry} {nested : Pass} {scope : Scope} {node : Node}

theorem step_of_node (hc : Node.ofContract scope.inline contract = .ok (some node))
    (hs : node.strict scope.strict = .ok strict) (hn : node.candidates data = some tokens) :
    step types nested scope data contract =
      firstAccepted (attempt types nested scope node strict data) noTypeLeft tokens := by
  simp only [step, hc, hs, hn, bind, Except.bind]

theorem step_of_null (hc : Node.ofContract scope.inline contract = .ok (some node))
    (hs : node.strict scope.strict = .ok strict) (hn : node.candidates data = none) :
    step types nested scope data contract = .ok ⟨.null, .null⟩ := by
  simp only [step, hc, hs, hn, bind, Except.bind]
  rfl

theorem firstAccepted_congr {each each' : String → Except Failure Result} {tokens : List String}
    (h : ∀ token ∈ tokens, each token = each' token) (message : String) :
    firstAccepted each message tokens = firstAccepted each' message tokens := by
  induction tokens generalizing message with
  | nil => rfl
  | cons token tokens ih =>
    obtain ⟨ht, h⟩ := List.forall_mem_cons.mp h
    rw [firstAccepted, firstAccepted, ht]
    split
    · exact ih h _
    · rfl

/-- Contracts whose nodes have the same mode, and whose types do the same to the data, filter it
alike. -/
theorem step_congr {types' : Registry} {nested' : Pass} {scope' : Scope} {node' : Node}
    {other : Value}
    (hc : Node.ofContract scope.inline contract = .ok (some node))
    (hc' : Node.ofContract scope'.inline other = .ok (some node'))
    (hs : node.strict scope.strict = node'.strict scope'.strict)
    (hd : node.candidates data = node'.candidates data)
    (ha : ∀ strict, node.strict scope.strict = .ok strict → ∀ tokens,
      node.candidates data = some tokens → ∀ token ∈ tokens,
        attempt types nested scope node strict data token =
          attempt types' nested' scope' node' strict data token) :
    step types nested scope data contract = step types' nested' scope' data other := by
  simp only [step, hc, hc', ← hs, ← hd, bind, Except.bind]
  cases hm : node.strict scope.strict with
  | error e => rfl
  | ok strict =>
    cases hn : node.candidates data with
    | none => rfl
    | some tokens => exact firstAccepted_congr (ha strict hm tokens hn) _

theorem firstAccepted_single (each : String → Except Failure Result) (message token : String) :
    firstAccepted each message [token] = each token := by
  unfold firstAccepted
  split
  · rename_i h
    rw [h]
    rfl
  · rfl

theorem attempt_kind (hl : types.kind token = .ok kind) :
    attempt types nested scope node strict data token =
      kind.validate (delegate types nested ⟨strict, node.inline⟩) ⟨strict, node.inline⟩ node.params
        data := by
  simp only [attempt, Registry.lookup_of_kind hl, hl, bind, Except.bind]

/-- Data other than null is checked by the kind that the one type of a contract stands for, its parts
a level deeper. -/
theorem validate_kind {f : Filter} (hc : Node.ofContract false contract = .ok (some node))
    (hm : node.members = [token]) (hk : f.registry.kind token = .ok kind)
    (hs : node.strict (s.getD f.config.strict) = .ok strict) (hd : data ≠ .null) :
    f.validate data contract s =
      kind.validate (delegate f.registry (run f.registry f.config.maxDepth f.config.maxDepth)
        ⟨strict, node.inline⟩) ⟨strict, node.inline⟩ node.params data := by
  rw [validate, run, step_of_node hc hs (Node.candidates_of_data hd (by simp [hm])), hm,
    firstAccepted_single, attempt_kind hk]

theorem attempt_template (hl : types.lookup token = .ok (.template template))
    (hx : token ∉ scope.expanded) (hc : template.expand node.params = .ok contract) :
    attempt types nested scope node strict data token =
      nested ⟨strict, node.inline || template.inline, token :: scope.expanded⟩ data contract := by
  have he : scope.expanded.contains token = false := by simpa using hx
  simp only [attempt, hl, he, hc, bind, Except.bind, Bool.false_eq_true, if_false]

end Filter
end Covenant
