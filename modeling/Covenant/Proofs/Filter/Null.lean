import Covenant.Kind
import Covenant.Proofs.Filter.Loose
import Covenant.Proofs.Filter.Reach
import Covenant.Proofs.Outcome

/-! Null is let through by no check but its own, and by an enumeration that lists it, so by no type
that does not say so. -/

namespace Covenant

/-- Nothing comes of the computation. -/
def Fails (x : Except ε α) : Prop := ∀ a, x ≠ .ok a

namespace Fails

theorem error (e : ε) : Fails (.error e : Except ε α) := by
  intro a h
  cases h

theorem refuse (m : String) : Fails (Covenant.refuse m : Except Stop α) := error _

theorem ite {c : Prop} [Decidable c] {x y : Except ε α} (hx : Fails x) (hy : Fails y) :
    Fails (if c then x else y) := by
  split
  · exact hx
  · exact hy

theorem bind_left {x : Except ε α} {k : α → Except ε β} (hx : Fails x) : Fails (x >>= k) := by
  intro b h
  obtain ⟨a, ha, _⟩ := bind_eq_ok.mp h
  exact hx a ha

theorem bind_of {x : Except ε α} {k : α → Except ε β} (hk : ∀ a, x = .ok a → Fails (k a)) :
    Fails (x >>= k) := by
  intro b h
  obtain ⟨a, ha, h⟩ := bind_eq_ok.mp h
  exact hk a ha b h

theorem bind {x : Except ε α} {k : α → Except ε β} (hk : ∀ a, Fails (k a)) : Fails (x >>= k) :=
  bind_of fun a _ => hk a

end Fails

namespace Check

variable {mode : Mode} {params : Params}

theorem bool_fails_null : Fails (bool mode params .null) := by
  unfold bool
  split
  · exact .refuse _
  · exact .bind fun _ => .refuse _

theorem int_fails_null : Fails (int mode params .null) := by
  refine .bind fun least => .bind fun most => .bind fun clamp => .bind_of fun read hread => ?_
  -- Read strictly or loosely, null is no number.
  obtain rfl : none = read := Except.ok.inj ((ite_self _).symm.trans (lift_eq_ok.mp hread))
  exact .refuse _

theorem float_fails_null : Fails (float mode params .null) := by
  refine .bind fun least => .bind fun most => .bind fun clamp => .bind_of fun read hread => ?_
  -- Read strictly or loosely, null is no number.
  obtain rfl : none = read := Except.ok.inj ((ite_self _).symm.trans (lift_eq_ok.mp hread))
  exact .refuse _

theorem string_fails_null : Fails (string mode params .null) :=
  .bind fun _ => .bind fun _ => .bind_left (.ite (.refuse _) (.refuse _))

theorem slug_fails_null : Fails (slug mode params .null) := by
  refine .bind fun limits => ?_
  dsimp only
  rw [if_pos (by simp [Value.isNumber])]
  exact .bind_left (.refuse _)

/-- An enumeration is searched for what is of the type of null, which is null alone. -/
theorem enum_fails_null
    (h : ∀ items, params.list "values" = .ok (some items) → .null ∉ items) :
    Fails (enum mode params .null) := by
  refine .bind_of fun values hv => .bind fun _ => ?_
  have hnone : ((values.getD []).any fun v => v.sameType .null && v.equals .null) = false := by
    rw [List.any_eq_false]
    intro v hm
    cases values with
    | none => cases hm
    | some items =>
      have hne : v ≠ .null := fun he => h items (lift_eq_ok.mp hv) (he ▸ hm)
      cases v with
      | null => exact absurd rfl hne
      | _ => simp [Value.sameType]
  rw [if_neg (by rw [hnone]; decide)]
  exact .bind fun _ => .refuse _

theorem Temporal.check_fails_null (t : Temporal) : Fails (t.check mode params .null) :=
  .bind fun _ => .bind fun _ => .refuse _

end Check

theorem Kind.check_fails_null {kind : Kind} {inner : Check.Delegate} (hn : kind ≠ null)
    (he : kind = enum → ∀ items, params.list "values" = .ok (some items) → .null ∉ items) :
    Fails (kind.check inner mode params .null) := by
  cases kind with
  | null => exact absurd rfl hn
  | bool => exact Check.bool_fails_null
  | int => exact Check.int_fails_null
  | float => exact Check.float_fails_null
  | string => exact Check.string_fails_null
  | email => exact .bind fun _ => .refuse _
  | url => exact .bind fun _ => .bind fun _ => .refuse _
  | enum => exact @Check.enum_fails_null mode _ (he rfl)
  | list => exact .bind fun _ => .refuse _
  | assoc => exact .bind fun _ => .refuse _
  | json => exact .bind fun _ => .refuse _
  | date => exact @Check.Temporal.check_fails_null mode _ _
  | time => exact @Check.Temporal.check_fails_null mode _ _
  | datetime => exact @Check.Temporal.check_fails_null mode _ _
  | uuid => exact .refuse _
  | isbn => exact .refuse _
  | ean => exact .refuse _
  | ip => exact .bind fun _ => .refuse _
  | mac => exact .refuse _
  | slug => exact Check.slug_fails_null
  | base64 => exact .bind fun _ => .bind fun _ => .refuse _
  | binary => exact .bind fun _ => .bind fun _ => .bind fun _ => .bind fun _ => .refuse _
  | color => exact .refuse _
  | geo => exact .bind fun _ => .bind fun _ => .refuse _
  | phone => exact .refuse _
  | hash => exact .bind fun _ => .bind fun _ => .bind fun _ => .refuse _

namespace Registry

/-- What is there at first is a kind under its token, or a template. -/
theorem lookup_builtin {types : Registry} (hb : types.table = builtin)
    (hl : types.lookup token = .ok entry) :
    (∃ kind, entry = .kind kind ∧ Kind.byToken.get? token = some kind) ∨
      ∃ base params, entry = .template ⟨Params.toEntries (("type", .text base) :: params), false⟩ ∧
        templates.get? token = some (("type", .text base) :: params) := by
  have hg : builtin.get? token = some entry := by
    rw [lookup, hb] at hl
    split at hl
    · rename_i hg
      rw [hg, Except.ok.inj hl]
    · cases hl
  rw [builtin, Named.get?_append, Named.get?_map] at hg
  cases hk : Kind.byToken.get? token with
  | some kind =>
    rw [hk] at hg
    exact .inl ⟨kind, (Option.some.inj hg).symm, rfl⟩
  | none =>
    rw [hk] at hg
    have hg := (Named.get?_map (fun ps : Params => Entry.template ⟨ps.toEntries, false⟩) templates
      token).symm.trans hg
    obtain ⟨params, ht, rfl⟩ := Option.map_eq_some_iff.mp hg
    have hbare : ∀ e ∈ templates, (bare? e.1).isSome := by decide
    obtain ⟨⟨kind, given⟩, he⟩ := Option.isSome_iff_exists.mp (hbare _ (Named.mem_of_get? ht))
    rcases bare?_cases he with ⟨_, hk'⟩ | ⟨_, base, ht', _⟩
    · rw [hk] at hk'
      cases hk'
    · cases ht.symm.trans ht'
      exact .inr ⟨base, given, rfl, ht⟩

end Registry

/-- A node whose types leave null out, and whose parameters do not let it in. -/
structure Node.ExcludesNull (node : Node) : Prop where
  nullable : node.type.nullable = false
  default : node.params.get "default" = .null
  values : "enum" ∈ node.type.tokens →
    ∀ items, node.params.list "values" = .ok (some items) → .null ∉ items

/-- A contract with a type that leaves null out, if it can be read. -/
structure ExcludesNull (contract : Value) : Prop where
  typed : Node.ofContract false contract ≠ .ok none
  node : ∀ node, Node.ofContract false contract = .ok (some node) → node.ExcludesNull

/-- The contract that a template stands for leaves null out where the contract that names it has no
default. -/
theorem ExcludesNull.of_template
    (ht : Registry.templates.get? token = some (("type", .text base) :: params))
    (hc : given.Canonical) (hd : given.get "default" = .null) :
    ExcludesNull (Params.toValue
      (Named.update (("type", .text base) :: params) (Template.additions given))) := by
  have hnode := Filter.templates_node ht hc false
  have hbase : base ≠ "enum" := by
    have hall : ∀ e ∈ Registry.templates, Params.get e.2 "type" ∉ [Value.text "enum"] := by decide
    have hne := hall _ (Named.mem_of_get? ht)
    rintro rfl
    exact hne List.mem_cons_self
  constructor
  · rw [hnode]
    simp
  · intro node hn
    cases hnode.symm.trans hn
    refine ⟨rfl, (Filter.templates_get ht hc (by simp)).trans hd, fun he => ?_⟩
    exact absurd (List.mem_singleton.mp he).symm hbase

namespace Filter

theorem firstAccepted_fails {each : String → Except Failure Result} {tokens : List String}
    (h : ∀ token ∈ tokens, Fails (each token)) (message : String) :
    Fails (firstAccepted each message tokens) := by
  induction tokens generalizing message with
  | nil => exact .error _
  | cons token tokens ih =>
    rw [List.forall_mem_cons] at h
    rw [firstAccepted]
    split
    · exact ih h.2 _
    · exact h.1

def Pass.FailsNull (pass : Pass) : Prop :=
  ∀ contract, ExcludesNull contract → ∀ scope, Fails (pass scope .null contract)

section Step

variable {types : Registry} {nested : Pass} {node : Node} (hb : types.table = Registry.builtin)
  (hn : nested.FailsNull)
include hb hn

theorem attempt_fails_null (hc : node.params.Canonical) (he : node.ExcludesNull)
    (ht : token ∈ node.type.tokens) (hnull : TypeExpr.nullToken ∉ node.type.tokens)
    (scope : Scope) (strict : Bool) :
    Fails (attempt types nested scope node strict .null token) := by
  refine .bind_of fun entry hl => ?_
  rcases Registry.lookup_builtin hb hl with ⟨kind, rfl, hkind⟩ | ⟨base, params, rfl, htemplate⟩
  · refine .bind_of fun kind' hk => ?_
    cases kind_of_lookup hl hk
    rw [Kind.validate_without_default he.default]
    have hm := Named.mem_of_get? hkind
    have hcheck : Fails (kind.check (delegate types nested ⟨strict, node.inline⟩)
        ⟨strict, node.inline⟩ node.params .null) := by
      refine Kind.check_fails_null ?_ ?_
      · rintro rfl
        have hall : ∀ e ∈ Kind.byToken, e.2 = .null → e.1 = TypeExpr.nullToken := by decide
        exact hnull (hall _ hm rfl ▸ ht)
      · rintro rfl
        have hall : ∀ e ∈ Kind.byToken, e.2 = .enum → e.1 = "enum" := by decide
        exact he.values (hall _ hm rfl ▸ ht)
    exact fun r hr => hcheck r (Check.settle_eq_ok.mp hr)
  · refine .ite (.error _) (.bind_of fun behind hx => ?_)
    rw [Template.expand_toEntries (Named.get?_cons_self "type" _ params)] at hx
    cases hx
    exact hn _ (.of_template htemplate hc he.default) _

theorem step_fails_null : Pass.FailsNull (step types nested) := by
  intro contract he scope
  refine .bind_of fun node? hc => ?_
  cases node? with
  | none => exact absurd (Node.ofContract_eq_none_iff.mp hc) he.typed
  | some node =>
    have hread := Node.ofContract_inline hc false
    obtain ⟨hnullable, hd, hv⟩ := he.node _ hread
    have hnull := TypeExpr.read_of_not_nullable (Node.ofContract_eq_ok hc).2.2.1 hnullable
    refine .bind fun strict => ?_
    rw [Node.candidates_of_no_null hnull hnullable]
    exact firstAccepted_fails (fun token ht =>
      attempt_fails_null hb hn (Node.canonical_of_ofContract hc) ⟨hnullable, hd, hv⟩ ht hnull scope
        strict) noTypeLeft

omit hn in
theorem run_fails_null (limit levels : Nat) : Pass.FailsNull (run types limit levels) := by
  induction levels with
  | zero => exact fun _ _ _ => .error _
  | succ levels ih => exact step_fails_null hb ih

end Step

/-- Null is let through by no contract of the types that are there at first, unless its type, its
default or its values say so. -/
theorem process_null {f : Filter} (hb : f.registry.table = Registry.builtin)
    (he : ExcludesNull contract) (s : Option Bool) (v : Value) :
    f.process .null contract s ≠ .ok v := by
  have hv : Fails (f.validate .null contract s) := run_fails_null hb _ _ contract he _
  rw [process]
  cases hr : f.validate .null contract s with
  | error e => exact Fails.error e v
  | ok r => exact absurd hr (hv r)

def code : Value :=
  .map [(.text "type", .list [.text "~enum", .text "md5", .text "array", .text "base64"]),
    (.text "values", .list [.int 1, .text "none"]), (.text "contract", .null),
    (.text "mime", .text "image/png")]

theorem process_null_by_code : initial.process .null code (some true) ≠ .ok .null := by
  have hread : Node.ofContract false code = .ok (some _) := rfl
  refine process_null (f := initial) rfl ⟨by rw [hread]; simp, fun node hn => ?_⟩ _ _
  cases hread.symm.trans hn
  refine ⟨rfl, rfl, fun _ items hi => ?_⟩
  cases hi
  simp

end Filter
end Covenant
