import Covenant.Proofs.Check.Default
import Covenant.Proofs.Check.Limits
import Covenant.Proofs.Filter.Step
import Covenant.Proofs.Value.Equality
import Mathlib.Data.List.Forall2

/-! Lists whose contracts by position end in an entry for the rest. -/

namespace Covenant

namespace Check

variable {inner : Delegate} {params : Params} {before after items : List Value}
  {results : List Result}

/-- An entry that stands for the rest of the elements. -/
def isRest (contract : Value) : Bool := (trimText contract).equals (.text restMarker)

/-- The elements that have a contract of their own, and what comes of them. -/
def Accepted (inner : Delegate) (items contracts : List Value) (results : List Result) : Prop :=
  List.Forall₂ (fun p result => inner.part p.1 (trimText p.2) = .ok result) (items.zip contracts)
    results

theorem element_of_accepted {result : Result} (h : inner.part item contract = .ok result)
    (index : Nat) : element inner index contract item = .ok result.value := by
  rw [element, h]

/-- Behind the elements with contracts of their own, one element more is what makes the rest. -/
theorem positional_rest (hb : ∀ c ∈ before, ¬isRest c) (hr : isRest marker)
    (ha : Accepted inner items before results) (hl : before.length ≤ items.length) (index : Nat) :
    positional inner true index items (before ++ marker :: after) =
      if before.length < items.length then
        .ok (results.map (·.value) ++ items.drop before.length)
      else miscounted := by
  induction before generalizing items results index with
  | nil =>
    cases items with
    | nil => rfl
    | cons item items =>
      cases ha
      rw [List.nil_append, positional, if_pos (show (trimText marker).equals _ = true from hr)]
      rfl
  | cons contract before ih =>
    cases items with
    | nil => cases hl
    | cons item items =>
      cases ha with
      | cons hp ha =>
        obtain ⟨hc, hb⟩ := List.forall_mem_cons.mp hb
        rw [List.cons_append, positional,
          if_neg (show ¬(trimText contract).equals _ = true from hc), element_of_accepted hp,
          ih hb ha (Nat.le_of_succ_le_succ hl)]
        simp only [List.length_cons, Nat.succ_lt_succ_iff]
        split
        · rfl
        · rfl

theorem isTrue_of_positions (h : positions values = .ok (contract :: contracts)) :
    values.isTrue = true := by
  unfold positions at h
  split at h
  · rename_i s
    by_cases hs : s = ""
    · subst hs
      cases h
    · simpa [Value.isTrue] using hs
  · cases h
    rfl
  · cases h
    rfl
  · cases h

theorem list_rest (hmin : (params.get "minLen").isAbsent) (hmax : (params.get "maxLen").isAbsent)
    (hv : positions (params.get "values") = .ok (before ++ marker :: after))
    (hb : ∀ c ∈ before, ¬isRest c) (hr : isRest marker)
    (hd : data = .list items ∨ data = .tuple items) (hl : before.length ≤ items.length)
    (ha : Accepted inner items before results) (inline : Bool) :
    list inner ⟨true, inline⟩ params data =
      if before.length < items.length then
        accept (.list (results.map (·.value) ++ items.drop before.length))
      else miscounted := by
  have htrue : (params.get "values").isTrue = true := by
    cases hc : before ++ marker :: after with
    | nil => simp at hc
    | cons c cs => exact isTrue_of_positions (hv.trans (congrArg Except.ok hc))
  have helements : elements? true data = some items := by
    rcases hd with rfl | rfl
    · rfl
    · rfl
  simp only [list, Limits.ofParams_of_absent hmin hmax, helements, htrue, hv, Limits.tooLong,
    Limits.tooShort, Limits.cut, Option.any_none, Bool.and_false, bind, Except.bind, lift_ok,
    Bool.false_eq_true, if_false, if_true, positional_rest hb hr ha hl]
  by_cases hlt : before.length < items.length
  · simp only [if_pos hlt]
  · simp only [if_neg hlt]
    rfl

end Check

namespace Filter

open Check (Accepted isRest positions)

variable {before after items : List Value} {results : List Result}

/-- In strict mode, the entry for the rest lets one or more elements through, as they are. Where no
element is left for it, the elements are counted as too few. -/
theorem validate_rest {f : Filter} (hc : Node.ofContract false contract = .ok (some node))
    (hm : node.members = [token]) (hk : f.registry.kind token = .ok .list)
    (hs : node.strict (s.getD f.config.strict) = .ok true)
    (hmin : (node.params.get "minLen").isAbsent) (hmax : (node.params.get "maxLen").isAbsent)
    (hv : positions (node.params.get "values") = .ok (before ++ marker :: after))
    (hb : ∀ c ∈ before, ¬isRest c) (hr : isRest marker)
    (hd : data = .list items ∨ data = .tuple items) (hl : before.length ≤ items.length)
    (ha : Accepted (delegate f.registry (run f.registry f.config.maxDepth f.config.maxDepth)
      ⟨true, node.inline⟩) items before results) :
    (before.length < items.length → f.validate data contract s =
      .ok ⟨.list (results.map (·.value) ++ items.drop before.length),
        .list (results.map (·.value) ++ items.drop before.length)⟩) ∧
    (before.length = items.length → node.params.get "default" = .null →
      f.validate data contract s =
        .error (.rejected "Data doesn't respect contract (bad number of elements in list).")) := by
  have hn : data ≠ .null := by
    rcases hd with rfl | rfl
    · simp
    · simp
  rw [validate_kind hc hm hk hs hn]
  have hlist := Check.list_rest hmin hmax hv hb hr hd hl ha node.inline
  constructor
  · intro hlt
    rw [if_pos hlt] at hlist
    exact Kind.validate_of_accepted hlist
  · intro he hdefault
    rw [if_neg (he ▸ Nat.lt_irrefl _)] at hlist
    rw [Kind.validate_without_default hdefault]
    exact congrArg Check.settle hlist

/-- A number, then anything. -/
def numberFirst : Value :=
  .map [(.text "type", .text "list"), (.text "values", .text "int, ... ")]

theorem validate_number_first :
    initial.validate (.tuple [.int 7, .text "a", .null]) numberFirst (some true) =
      .ok ⟨.list [.int 7, .text "a", .null], .list [.int 7, .text "a", .null]⟩ := by
  have ha : Accepted (delegate .initial (run .initial 64 64) ⟨true, false⟩)
      [.int 7, .text "a", .null] [.text "int"] [⟨.int 7, .int 7⟩] := .cons (by rfl) .nil
  exact (@validate_rest [.text "int"] [] _ _ numberFirst _ _ (.text "...") _ _ initial rfl rfl rfl
    rfl rfl rfl rfl (by decide) rfl (.inr rfl) (by decide) ha).1 (by decide)

/-- A number alone, which the entry for the rest leaves nothing of. -/
theorem validate_number_alone :
    initial.validate (.int 7) (.text "int") (some true) = .ok ⟨.int 7, .int 7⟩ ∧
      initial.validate (.list [.int 7]) numberFirst (some true) =
        .error (.rejected "Data doesn't respect contract (bad number of elements in list).") ∧
      initial.validate (.list [.int 7]) numberFirst (some false) =
        .ok ⟨.list [.int 7], .list [.int 7]⟩ :=
  ⟨by rfl, by rfl, by rfl⟩

end Filter
end Covenant
