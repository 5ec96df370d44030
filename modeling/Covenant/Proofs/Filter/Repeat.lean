import Covenant.Proofs.Check.Default
import Covenant.Proofs.Check.Record
import Covenant.Proofs.Check.Spelling
import Covenant.Proofs.Filter.Step
import Covenant.Proofs.Value.Equality

/-! Filtered data is left as it is by the same contract, in either mode. -/

namespace Covenant

namespace Check

/-- The scalar types whose results their own contract lets through. -/
inductive Leaf (params : Params) : Kind → Prop
  | bool : Leaf params .bool
  | int (least most : Option Int) (hl : params.get "min" = least.elim .null .int)
      (hm : params.get "max" = most.elim .null .int)
      (hle : ∀ a ∈ least, ∀ b ∈ most, a ≤ b) : Leaf params .int
  | string (hc : params.get "charset" = .null) : Leaf params .string
  | enum : Leaf params .enum
  | uuid : Leaf params .uuid

theorem Leaf.ne_null (h : Leaf params kind) : kind ≠ .null := by
  rintro rfl
  cases h

/-- The result of a check, as the check of its value in another mode. Of null, nothing further is
found out. -/
def Fixed (again : Value → Outcome) (r : Result) : Prop :=
  again r.value = .ok r ∧ (r.value = .null → r.output = .null)

theorem fixed_of_accept (h : ∃ v, r = ⟨v, v⟩ ∧ again v = accept v) : Fixed again r := by
  obtain ⟨v, rfl, h⟩ := h
  exact ⟨h, id⟩

theorem Leaf.fixed {inner inner' : Delegate} (h : Leaf params kind)
    (hr : kind.check inner mode params data = .ok r) :
    Fixed (kind.check inner' mode' params) r := by
  cases h with
  | bool => exact fixed_of_accept (bool_repeat hr)
  | int least most hl hm hle => exact fixed_of_accept (int_repeat hl hm hle hr)
  | string hc => exact fixed_of_accept (string_repeat hc hr)
  | enum => exact fixed_of_accept (@enum_repeat mode mode' params data r hr)
  | uuid =>
    obtain ⟨s, hs, h⟩ := @uuid_repeat mode params data r mode' hr
    refine ⟨hs ▸ h, fun hn => ?_⟩
    rw [hs] at hn
    cases hn

end Check

namespace Filter

/-- Contracts whose results they let through themselves: the scalar types, lists of such contracts
and records with them. -/
inductive Repeatable (types : Registry) : Value → Prop
  | anything (h : Node.ofContract false contract = .ok none) : Repeatable types contract
  | leaf (h : Node.ofContract false contract = .ok (some node)) (hm : node.members = [token])
      (hk : types.kind token = .ok kind) (hl : Check.Leaf node.params kind) :
      Repeatable types contract
  | list (h : Node.ofContract false contract = .ok (some node)) (hm : node.members = [token])
      (hk : types.kind token = .ok .list) (hv : (node.params.get "values").isTrue = false)
      (hc : node.params.get "contract" ≠ .null →
        Repeatable types (node.params.get "contract")) : Repeatable types contract
  | assoc (h : Node.ofContract false contract = .ok (some node)) (hm : node.members = [token])
      (hk : types.kind token = .ok .assoc)
      (hf : ∀ keys, Check.recordKeys node.params = .ok keys →
        List.Forall₂ Check.Field.Reads keys fields)
      (hn : (Check.Field.names fields).Nodup)
      (hc : ∀ field ∈ fields, ∀ c, field.contract? = some c → Repeatable types c) :
      Repeatable types contract

/-- What comes of data by a repeatable contract comes of it again, in any mode. -/
def Repeats (types : Registry) (pass : Pass) : Prop :=
  ∀ contract, Repeatable types contract → ∀ s s' data r,
    pass (.part s) data contract = .ok r → pass (.part s') r.value contract = .ok r

variable {types : Registry} {nested : Pass}

theorem Repeats.delegate (hp : Repeats types nested) (hc : Repeatable types contract)
    (mode mode' : Mode) :
    (delegate types nested mode).Repeats (delegate types nested mode') contract :=
  hp contract hc mode.strict mode'.strict

/-- A node of one type leaves its results as they are if the check of the type does. -/
theorem step_of_fixed (h : Node.ofContract false contract = .ok (some node))
    (hm : node.members = [token]) (hk : types.kind token = .ok kind) (hn : kind ≠ .null)
    (hfixed : ∀ mode mode' data r,
      kind.check (delegate types nested mode) mode node.params data = .ok r →
        Check.Fixed (kind.check (delegate types nested mode') mode' node.params) r)
    (hr : step types nested (.part s) data contract = .ok r) :
    step types nested (.part s') r.value contract = .ok r := by
  obtain ⟨_, hnode, hr⟩ := bind_eq_ok.mp hr
  cases h.symm.trans hnode
  obtain ⟨strict, hs, hr⟩ := bind_eq_ok.mp hr
  obtain ⟨strict', hs'⟩ := Node.strict_of_ok hs s'
  rcases Node.candidates_of_single h hm data with hc | ⟨rfl, hc⟩
  · rw [hc] at hr
    dsimp only at hr
    rw [firstAccepted_single, attempt_kind hk] at hr
    obtain ⟨d, hd⟩ := Kind.validate_eq_ok hn hr
    obtain ⟨hagain, hnull⟩ := hfixed _ ⟨strict', node.inline⟩ d r hd
    rcases Node.candidates_of_single h hm r.value with hc' | ⟨hv, hc'⟩
    · rw [step_of_node h hs' hc', firstAccepted_single, attempt_kind hk]
      exact Kind.validate_of_accepted hagain
    · rw [step_of_null h hs' hc']
      obtain ⟨v, output⟩ := r
      cases hv
      cases show output = .null from hnull rfl
      rfl
  · rw [hc] at hr
    cases hr
    exact step_of_null h hs' hc

theorem step_repeat (hp : Repeats types nested) : Repeats types (step types nested) := by
  intro contract hc s s' data r hr
  cases hc with
  | anything h =>
    obtain ⟨_, hnode, hr⟩ := bind_eq_ok.mp hr
    cases h.symm.trans hnode
    cases hr
    exact bind_eq_ok.mpr ⟨none, h, rfl⟩
  | leaf h hm hk hl =>
    exact step_of_fixed h hm hk hl.ne_null (fun mode mode' data r hr => hl.fixed hr) hr
  | list h hm hk hv hc =>
    exact step_of_fixed h hm hk (by decide) (fun mode mode' data r hr =>
      Check.fixed_of_accept (Check.list_repeat hv
        (fun hne => hp.delegate (hc hne) mode mode') hr)) hr
  | assoc h hm hk hf hn hc =>
    exact step_of_fixed h hm hk (by decide) (fun mode mode' data r hr =>
      Check.fixed_of_accept (Check.assoc_repeat hf hn
        (fun field hf c hfc => hp.delegate (hc field hf c hfc) mode mode') hr)) hr

theorem run_repeat (types : Registry) (limit levels : Nat) :
    Repeats types (run types limit levels) := by
  induction levels with
  | zero =>
    intro contract _ s s' data r hr
    cases hr
  | succ levels ih => exact step_repeat ih

/-- What comes of data by a repeatable contract, the contract leaves as it is, in either mode. -/
theorem process_repeat {f : Filter} (h : Repeatable f.registry contract)
    (hv : f.process data contract s = .ok v) (s' : Option Bool) :
    f.process v contract s' = .ok v := by
  unfold process validate at hv ⊢
  cases hr : run f.registry f.config.maxDepth (f.config.maxDepth + 1)
      (.part (s.getD f.config.strict)) data contract with
  | error e =>
    rw [hr] at hv
    cases hv
  | ok r =>
    rw [hr] at hv
    cases hv
    rw [run_repeat f.registry _ _ contract h _ (s'.getD f.config.strict) data r hr]
    rfl

def count : Value :=
  .map [(.text "type", .text "~int"), (.text "min", .int 1), (.text "max", .int 9)]

def tags : Value :=
  .map [(.text "type", .text "?list"), (.text "maxLen", .int 2), (.text "contract", .text "string")]

/-- An order has an id and tags, and it may have a count and flags. -/
def order : Value :=
  .map [(.text "id", .text "uuid"), (.text "count?", count), (.text "tags", tags),
    (.text "...", .text "bool")]

theorem order_repeatable : Repeatable .initial order := by
  have hf (keys : Entries) (hk : Check.recordKeys (Node.record order) = .ok keys) :
      List.Forall₂ Check.Field.Reads keys [.named "id" true (.text "uuid"),
        .named "count" false count, .named "tags" true tags, .others (some (.text "bool"))] := by
    cases hk
    exact .cons rfl (.cons rfl (.cons rfl (.cons rfl .nil)))
  refine .assoc rfl rfl rfl hf (by decide) fun field hm c hc => ?_
  simp only [List.mem_cons, List.not_mem_nil, or_false] at hm
  rcases hm with rfl | rfl | rfl | rfl
  · cases hc
    exact .leaf rfl rfl rfl .uuid
  · cases hc
    exact .leaf rfl rfl rfl (.int (some 1) (some 9) rfl rfl (by decide))
  · cases hc
    exact .list rfl rfl rfl rfl fun _ => .leaf rfl rfl rfl (.string rfl)
  · cases hc
    exact .leaf rfl rfl rfl .bool

def sent : Value :=
  .map [(.text "id", .text "12345678123456781234567812345678"), (.text "count", .text "12"),
    (.text "tags", .list [.text "new", .int 5, .text "gift"]), (.text "paid", .text "no")]

def received : Value :=
  .map [(.text "id", .text "12345678-1234-5678-1234-567812345678"), (.text "count", .int 9),
    (.text "tags", .list [.text "new", .text "5"]), (.text "paid", .bool false)]

theorem process_order :
    initial.process sent order (some false) = .ok received ∧
      initial.process received order (some true) = .ok received := by
  have hv : initial.process sent order (some false) = .ok received := by decide +kernel
  exact ⟨hv, process_repeat order_repeatable hv (some true)⟩

end Filter
end Covenant
