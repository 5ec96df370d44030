import Covenant.Proofs.Check.Limits
import Covenant.Proofs.Filter.Rest

/-! How many elements a list has that comes of data. -/

namespace Covenant

namespace Check

variable {inner : Delegate} {params : Params} {mode : Mode} {items contracts : List Value}

theorem length_uniform (h : uniform inner contract index items = .ok vs) :
    vs.length = items.length := by
  induction items generalizing index vs with
  | nil =>
    cases h
    rfl
  | cons item items ih =>
    rw [uniform] at h
    obtain ⟨v, _, h⟩ := bind_eq_ok.mp h
    obtain ⟨ws, hw, h⟩ := bind_eq_ok.mp h
    cases h
    exact congrArg Nat.succ (ih hw)

/-- How many of so many elements contracts by position keep: all of them with an entry for the rest,
and one for each contract otherwise. -/
def kept (contracts : List Value) (n : Nat) : Nat :=
  if contracts.any isRest then n else min n contracts.length

theorem kept_cons (h : ¬isRest contract) (contracts : List Value) (n : Nat) :
    kept (contract :: contracts) (n + 1) = kept contracts n + 1 := by
  rw [kept, kept, List.any_cons, Bool.eq_false_iff.mpr h, Bool.false_or, List.length_cons]
  split
  · rfl
  · exact Nat.succ_min_succ _ _

/-- Strictly, no element is dropped. -/
theorem length_positional (h : positional inner strict index items contracts = .ok vs) :
    vs.length = if strict then items.length else kept contracts items.length := by
  induction items generalizing index contracts vs with
  | nil =>
    have hnil : vs = [] := by
      cases contracts with
      | nil => exact (Except.ok.inj h).symm
      | cons contract contracts =>
        rw [positional] at h
        split at h
        · cases h
        · exact (Except.ok.inj h).symm
    rw [hnil, List.length_nil, kept, Nat.zero_min, ite_self, ite_self]
  | cons item items ih =>
    cases contracts with
    | nil =>
      rw [positional] at h
      cases strict with
      | true => cases h
      | false =>
        cases h
        rfl
    | cons contract contracts =>
      rw [positional] at h
      split at h
      · rename_i hr
        cases h
        have hr : isRest contract := hr
        rw [kept, List.any_cons, hr, Bool.true_or, if_pos rfl, ite_self]
      · rename_i hr
        obtain ⟨v, _, h⟩ := bind_eq_ok.mp h
        obtain ⟨ws, hw, h⟩ := bind_eq_ok.mp h
        cases h
        rw [List.length_cons, ih hw, List.length_cons, kept_cons hr]
        split
        · rfl
        · rfl

/-- How many elements a list may have and lose none: loosely, as many as it has contracts by
position, unless one of them stands for the rest. -/
def capacity? (mode : Mode) (params : Params) : Option Nat :=
  if mode.strict || !(params.get "values").isTrue then none
  else
    match positions (params.get "values") with
    | .ok contracts => if contracts.any isRest then none else some contracts.length
    | .error _ => none

theorem kept_eq_elim (hs : mode.strict = false) (hv : (params.get "values").isTrue)
    (hp : positions (params.get "values") = .ok contracts) (n : Nat) :
    kept contracts n = (capacity? mode params).elim n (min n) := by
  rw [capacity?, hs, hv, hp, kept]
  simp only [Bool.not_true, Bool.or_false, Bool.false_eq_true, if_false]
  split
  · rfl
  · rfl

theorem capacity?_of_strict (hs : mode.strict) : capacity? mode params = none := by
  rw [capacity?, hs, Bool.true_or, if_pos rfl]

theorem capacity?_of_no_values (hv : (params.get "values").isTrue = false) (mode : Mode) :
    capacity? mode params = none := by
  rw [capacity?, hv, Bool.not_false, Bool.or_true, if_pos rfl]

/-- Elements are cut to the bounds first, and may be dropped afterwards. -/
theorem list_eq_ok (h : list inner mode params data = .ok r) : ∃ limits items vs,
    Limits.ofParams params = .ok limits ∧ elements? mode.strict data = some items ∧
      limits.Allows (limits.cut items).length ∧ r = ⟨.list vs, .list vs⟩ ∧
        vs.length = (capacity? mode params).elim (limits.cut items).length
          (min (limits.cut items).length) := by
  rw [list] at h
  obtain ⟨limits, hl, h⟩ := bind_eq_ok.mp h
  split at h
  · cases h
  · rename_i items he
    rw [ite_refuse_eq_ok, ite_refuse_eq_ok] at h
    obtain ⟨_, hs, h⟩ := h
    refine ⟨limits, items, ?_⟩
    by_cases hv : (params.get "values").isTrue
    · rw [if_pos hv] at h
      obtain ⟨contracts, hc, h⟩ := bind_eq_ok.mp h
      obtain ⟨vs, hvs, h⟩ := bind_eq_ok.mp h
      refine ⟨vs, lift_eq_ok.mp hl, he, Limits.allows_cut hs, accept_eq_ok.mp h, ?_⟩
      rw [length_positional hvs]
      split
      · rename_i hstrict
        rw [capacity?_of_strict hstrict]
        rfl
      · rename_i hstrict
        exact kept_eq_elim (Bool.eq_false_iff.mpr hstrict) hv (lift_eq_ok.mp hc) _
    · rw [if_neg hv] at h
      have hnone := capacity?_of_no_values (Bool.eq_false_iff.mpr hv) mode
      rw [hnone]
      split at h
      · exact ⟨_, lift_eq_ok.mp hl, he, Limits.allows_cut hs, accept_eq_ok.mp h, rfl⟩
      · obtain ⟨vs, hvs, h⟩ := bind_eq_ok.mp h
        exact ⟨vs, lift_eq_ok.mp hl, he, Limits.allows_cut hs, accept_eq_ok.mp h,
          length_uniform hvs⟩

end Check

namespace Kind

open Check (capacity? elements?)

variable {mode : Mode} {params : Params} {data : Value} {inner : Check.Delegate}

/-- The elements of a list are between the bounds before those without a contract are dropped. There
are too few of them afterwards if the contracts by position are too few. -/
theorem validate_count (h : list.validate inner mode params data = .ok r) :
    ∃ limits items vs, Limits.ofParams params = .ok limits ∧
      (∃ d ∈ [data, params.get "default"], elements? mode.strict d = some items) ∧
      limits.Allows (limits.cut items).length ∧ r = ⟨.list vs, .list vs⟩ ∧
      vs.length = (capacity? mode params).elim (limits.cut items).length
        (min (limits.cut items).length) ∧
      (∀ b ∈ limits.most, vs.length ≤ b) ∧
      (limits.Allows vs.length ↔
        ∀ k ∈ capacity? mode params, ∀ a ∈ limits.least, a ≤ k) := by
  obtain ⟨d, hd, hc⟩ := check_data_or_default (by decide) h
  obtain ⟨limits, items, vs, hl, he, hn, hr, hv⟩ := Check.list_eq_ok hc
  refine ⟨limits, items, vs, hl, ⟨d, hd, he⟩, hn, hr, hv, ?_⟩
  rw [hv]
  cases capacity? mode params with
  | none => exact ⟨hn.most, iff_of_true hn (by simp)⟩
  | some k =>
    refine ⟨fun b hb => (Nat.min_le_left _ k).trans (hn.most b hb), ?_⟩
    simpa using Limits.allows_min hn

/-- The parts of data that the initial filter checks loosely. -/
def initialParts : Check.Delegate :=
  Filter.delegate .initial (Filter.run .initial 64 64) ⟨false, false⟩

/-- Two or three elements, a number first. -/
def twoOrThree : Params :=
  [("minLen", .int 2), ("maxLen", .int 3), ("values", .list [.text "int", .text "..."])]

theorem limits_twoOrThree : Limits.ofParams twoOrThree = .ok ⟨some 2, some 3⟩ :=
  Limits.ofParams_eq (Size.ofValue_natCast (by decide)) (Size.ofValue_natCast (by decide))

theorem validate_three_of_four :
    list.validate initialParts ⟨false, false⟩ twoOrThree
        (.list [.int 1, .text "a", .null, .null]) =
          .ok ⟨.list [.int 1, .text "a", .null], .list [.int 1, .text "a", .null]⟩ ∧
      Limits.Allows ⟨some 2, some 3⟩ [Value.int 1, .text "a", .null].length := by
  have h : list.validate initialParts ⟨false, false⟩ twoOrThree
      (.list [.int 1, .text "a", .null, .null]) =
        .ok ⟨.list [.int 1, .text "a", .null], .list [.int 1, .text "a", .null]⟩ := by
    decide +kernel
  obtain ⟨limits, items, vs, hl, _, _, hr, _, _, hiff⟩ := validate_count h
  obtain rfl := Except.ok.inj (limits_twoOrThree.symm.trans hl)
  obtain rfl := Value.list.inj (congrArg Result.value hr)
  have hnone : capacity? ⟨false, false⟩ twoOrThree = none := rfl
  exact ⟨h, hiff.mpr (by simp [hnone])⟩

/-- Two elements or more, of which only the first one has a contract. -/
def twoOrMore : Params := [("type", .text "list"), ("minLen", .int 2), ("values", .text "int")]

/-- One of three elements is left where there have to be two, so that the next check refuses it. -/
theorem validate_one_of_three :
    Filter.initial.validate (.list [.int 1, .int 2, .int 3]) (.map twoOrMore.toEntries)
        (some false) = .ok ⟨.list [.int 1], .list [.int 1]⟩ ∧
      Limits.ofParams twoOrMore = .ok ⟨some 2, none⟩ ∧
      ¬Limits.Allows ⟨some 2, none⟩ [Value.int 1].length ∧
      Filter.initial.validate (.list [.int 1]) (.map twoOrMore.toEntries) (some false) =
        .error (.rejected "Data size doesn't respect the contract (list too short).") := by
  have hl : Limits.ofParams twoOrMore = .ok ⟨some 2, none⟩ :=
    Limits.ofParams_eq (Size.ofValue_natCast (by decide)) (Size.ofValue_of_isAbsent rfl)
  exact ⟨by decide +kernel, hl, fun h => absurd (h.least 2 rfl) (by decide), by decide +kernel⟩

end Kind
end Covenant
