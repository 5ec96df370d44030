import Covenant.Proofs.Filter.Reach
import Covenant.Proofs.Value.Equality

/-! Two runs end alike, unless the first one is cut short: by its limit on nested contracts, or at an
alias that only the first one has expanded before. -/

namespace Covenant

variable {cut : Failure → Prop}

/-- Scopes that differ in the expanded aliases alone. Where an alias has been expanded on the first
way only, it may cut the first run short. -/
structure Scope.Refines (cut : Failure → Prop) (s s' : Scope) : Prop where
  strict : s.strict = s'.strict
  inline : s.inline = s'.inline
  subset : s'.expanded ⊆ s.expanded
  cycle : ∀ token ∈ s.expanded, token ∉ s'.expanded → cut (Filter.aliasCycle token)

namespace Scope.Refines

variable {s s' : Scope}

theorem refl (s : Scope) : s.Refines cut s :=
  ⟨rfl, rfl, List.Subset.refl _, fun _ h hn => absurd h hn⟩

end Scope.Refines

namespace Filter

/-- A pass ends as another one does, unless it is cut short. -/
def Pass.Refines (cut : Failure → Prop) (pass pass' : Pass) : Prop :=
  ∀ s s', s.Refines cut s' → ∀ data contract,
    Covenant.Refines cut (pass s data contract) (pass' s' data contract)

/-- A run of more levels ends alike, unless the limit cuts the other one short. -/
theorem run_refines {types : Registry} (hf : ∀ f, cut f → f.IsFinal) (hd : cut (tooDeep limit))
    (limit' : Nat) (hl : levels ≤ levels') :
    Pass.Refines cut (run types limit levels) (run types limit' levels') := by
  rintro ⟨strict, inline, expanded⟩ ⟨_, _, expanded'⟩ ⟨rfl, rfl, hsub, hcycle⟩ data contract
  exact run_follows hf rfl hl (.inl hd) strict inline expanded expanded' contract
    ⟨fun _ _ => rfl, hsub, fun token _ => hcycle token⟩ data

/-- The filter with another limit on nested contracts. -/
def withMaxDepth (filter : Filter) (limit : Nat) : Filter :=
  { filter with config := { filter.config with maxDepth := limit } }

/-- The limit on nested contracts only cuts off: data that is filtered within it is filtered alike
within any greater one. -/
theorem validate_maxDepth {f : Filter} (h : n ≤ m)
    (hd : (f.withMaxDepth n).validate data contract s ≠ .error (tooDeep n)) :
    (f.withMaxDepth m).validate data contract s = (f.withMaxDepth n).validate data contract s := by
  have hcut (e : Failure) (he : e = tooDeep n) : e.IsFinal := he ▸ Failure.malformed_isFinal _
  have hr : Pass.Refines (· = tooDeep n) (run f.registry n (n + 1)) (run f.registry m (m + 1)) :=
    run_refines hcut rfl m (Nat.succ_le_succ h)
  rcases hr _ _ (.refl (.part (s.getD f.config.strict))) data contract with ⟨e, rfl, he⟩ | he
  · exact absurd he hd
  · exact he.symm

/-- A filter for trees: lists of trees. -/
def trees : Filter :=
  { initial with registry.table := Registry.builtin.put "tree" (.template
      ⟨[(.text "type", .text "list"), (.text "contract", .text "tree")], false⟩) }

theorem validate_tree :
    (trees.withMaxDepth 64).validate (.list [.list [], .list []]) (.text "tree") none =
      .ok ⟨.list [.list [], .list []], .list [.list [], .list []]⟩ :=
  (validate_maxDepth (show 3 ≤ 64 by decide) (by decide)).trans (by decide +kernel)

end Filter
end Covenant
