import Covenant.Kind
import Covenant.Proofs.Held
import Covenant.Proofs.Outcome

/-! What a check lets through, it lets through again as it is, in either mode. -/

namespace Covenant

namespace Limits

theorem tooLong_cut (l : Limits) (xs : List α) : l.tooLong (l.cut xs).length = false := by
  unfold tooLong cut
  cases l.most with
  | none => rfl
  | some n => exact decide_eq_false (Nat.not_lt_of_le (List.length_take_le n xs))

theorem cut_of_not_tooLong {l : Limits} {xs : List α} (h : l.tooLong xs.length = false) :
    l.cut xs = xs := by
  unfold tooLong at h
  unfold cut
  cases hm : l.most with
  | none => rfl
  | some n =>
    rw [hm] at h
    exact List.take_of_length_le (Nat.le_of_not_lt (of_decide_eq_false h))

theorem cut_cut (l : Limits) (xs : List α) : l.cut (l.cut xs) = l.cut xs :=
  cut_of_not_tooLong (l.tooLong_cut xs)

end Limits

namespace Check

variable {mode mode' : Mode} {params : Params} {data : Value}

theorem accept_eq_ok : accept v = .ok r ↔ r = ⟨v, v⟩ := by
  rw [accept, Except.ok.injEq, eq_comm]

theorem ite_refuse_eq_ok {c : Prop} [Decidable c] {x : Except Stop α} :
    (if c then refuse m else x) = .ok a ↔ ¬c ∧ x = .ok a := by
  split
  · rename_i hc
    simp [hc, refuse]
  · rename_i hc
    simp [hc]

theorem ite_accept_eq_ok {c : Prop} [Decidable c] :
    (if c then accept v else refuse m) = .ok r ↔ c ∧ r = ⟨v, v⟩ := by
  split
  · rename_i hc
    simp [hc, accept_eq_ok]
  · rename_i hc
    simp [hc, refuse]

theorem boolConst_eq_ok (h : boolConst mode b data = .ok r) : r = ⟨.bool b, .bool b⟩ := by
  unfold boolConst at h
  exact (ite_accept_eq_ok.mp h).2

theorem boolConst_self (mode : Mode) (b : Bool) : boolConst mode b (.bool b) = accept (.bool b) :=
  if_pos (beq_self_eq_true b)

theorem bool_repeat (h : bool mode params data = .ok r) :
    ∃ v, r = ⟨v, v⟩ ∧ bool mode' params v = accept v := by
  unfold bool at h ⊢
  split at h
  · split at h
    · exact ⟨_, accept_eq_ok.mp h, rfl⟩
    · cases h
    · obtain ⟨_, h⟩ := ite_refuse_eq_ok.mp h
      exact ⟨_, accept_eq_ok.mp h, rfl⟩
  · obtain ⟨b, hb, h⟩ := bind_eq_ok.mp h
    refine ⟨_, boolConst_eq_ok h, ?_⟩
    rw [hb]
    exact boolConst_self mode' b

theorem enum_repeat (h : enum mode params data = .ok r) :
    ∃ v, r = ⟨v, v⟩ ∧ enum mode' params v = accept v := by
  have hr : r = ⟨data, data⟩ := by
    obtain ⟨vs, _, h⟩ := bind_eq_ok.mp h
    obtain ⟨_, _, h⟩ := bind_eq_ok.mp h
    split at h
    · exact accept_eq_ok.mp h
    · obtain ⟨_, _, h⟩ := bind_eq_ok.mp h
      cases h
  rw [hr] at h
  exact ⟨data, hr, h⟩

section Int

variable {least most : Option Int}

/-- A bound that is an integer, or not given. -/
theorem ofInt_native (bound : Option Int) (name : String) (convert : Bool) :
    Bound.ofInt (bound.elim .null .int) name convert = .ok bound := by
  cases bound <;> rfl

/-- An integer within its bounds is not moved. -/
theorem int_within (hl : Bound.ofInt (params.get "min") "min" (mode.inline || !mode.strict) =
      .ok least)
    (hm : Bound.ofInt (params.get "max") "max" (mode.inline || !mode.strict) = .ok most)
    (hc : clamps params = .ok clamp) (h : (least.any (i < ·) || most.any (· < i)) = false) :
    int mode params (.int i) = accept (.int i) := by
  have hr : (if mode.strict then .ok (exactInt (.int i)) else Loose.readInt (.int i)) =
      (.ok (some i) : Except Failure (Option Int)) := by
    split
    · rfl
    · rfl
  unfold int
  simp only [hl, hm, hc, hr]
  exact if_neg (by rw [h]; decide)

theorem not_beyond_iff : (least.any (i < ·) || most.any (· < i)) = false ↔
    (∀ a ∈ least, a ≤ i) ∧ ∀ b ∈ most, i ≤ b := by
  rw [Bool.or_eq_false_iff, Option.any_eq_false, Option.any_eq_false]
  simp only [decide_eq_false_iff_not, Int.not_lt]
  exact Iff.rfl

theorem compares_int : Compares (fun _ : Int => True) id (fun i j => decide (i < j)) (· ≤ ·) :=
  ⟨fun _ _ _ _ => decide_eq_true_iff, fun _ _ _ _ => Iff.rfl⟩

theorem clamped_eq_hold (least most : Option Int) (i : Int) :
    most.elim (least.elim i (max i)) (min (least.elim i (max i))) =
      hold (fun i j => decide (i < j)) least most i := by
  have hraise : least.elim i (max i) = moveTo least (fun j => decide (i < j)) i := by
    cases least with
    | none => rfl
    | some a =>
      rw [moveTo, Option.elim_some, Option.elim_some]
      simp only [decide_eq_true_eq]
      omega
  rw [hold, ← hraise]
  generalize least.elim i (max i) = j
  cases most with
  | none => rfl
  | some b =>
    rw [moveTo, Option.elim_some, Option.elim_some]
    simp only [decide_eq_true_eq]
    omega

theorem held_clamped (hle : ∀ a ∈ least, ∀ b ∈ most, a ≤ b) (i : Int) :
    Held (· ≤ ·) least most i (most.elim (least.elim i (max i)) (min (least.elim i (max i)))) := by
  rw [clamped_eq_hold]
  exact compares_int.held_hold trivial (fun _ _ => trivial) (fun _ _ => trivial) hle

/-- What is raised to its least value and lowered to its greatest is between them. -/
theorem clamped_within (hle : ∀ a ∈ least, ∀ b ∈ most, a ≤ b) (i : Int) :
    (least.any (most.elim (least.elim i (max i)) (min (least.elim i (max i))) < ·) ||
      most.any (· < most.elim (least.elim i (max i)) (min (least.elim i (max i))))) = false :=
  not_beyond_iff.mpr ⟨(held_clamped hle i).above, (held_clamped hle i).below⟩

/-- What is let through is an integer beyond no bound. -/
theorem int_eq_ok (hl : Bound.ofInt (params.get "min") "min" (mode.inline || !mode.strict) =
      .ok least)
    (hm : Bound.ofInt (params.get "max") "max" (mode.inline || !mode.strict) = .ok most)
    (hle : ∀ a ∈ least, ∀ b ∈ most, a ≤ b) (h : int mode params data = .ok r) :
    (∃ clamp, clamps params = .ok clamp) ∧
      ∃ i, r = ⟨.int i, .int i⟩ ∧ (least.any (i < ·) || most.any (· < i)) = false := by
  unfold int at h
  simp only [hl, hm] at h
  obtain ⟨clamp, hc, h⟩ := bind_eq_ok.mp (show (liftM (clamps params) >>= _) = _ from h)
  obtain ⟨read, _, h⟩ := bind_eq_ok.mp h
  refine ⟨⟨clamp, lift_eq_ok.mp hc⟩, ?_⟩
  cases read with
  | none => cases h
  | some i =>
    dsimp only at h
    split at h
    · obtain ⟨_, h⟩ := ite_refuse_eq_ok.mp h
      exact ⟨_, accept_eq_ok.mp h, clamped_within hle i⟩
    · rename_i hin
      exact ⟨i, accept_eq_ok.mp h, Bool.eq_false_iff.mpr hin⟩

theorem int_repeat (hl : params.get "min" = least.elim .null .int)
    (hm : params.get "max" = most.elim .null .int)
    (hle : ∀ a ∈ least, ∀ b ∈ most, a ≤ b)
    (h : int mode params data = .ok r) :
    ∃ v, r = ⟨v, v⟩ ∧ int mode' params v = accept v := by
  have hleast (convert : Bool) : Bound.ofInt (params.get "min") "min" convert = .ok least :=
    hl ▸ ofInt_native least "min" convert
  have hmost (convert : Bool) : Bound.ofInt (params.get "max") "max" convert = .ok most :=
    hm ▸ ofInt_native most "max" convert
  obtain ⟨⟨clamp, hc⟩, i, hr, hin⟩ := int_eq_ok (hleast _) (hmost _) hle h
  exact ⟨.int i, hr, int_within (hleast _) (hmost _) hc hin⟩

end Int

/-- A text that is cut to its length is not cut again. -/
theorem string_repeat (hc : params.get "charset" = .null) (h : string mode params data = .ok r) :
    ∃ v, r = ⟨v, v⟩ ∧ string mode' params v = accept v := by
  have hcs : params.list "charset" = .ok none := by
    rw [Params.list, hc]
    rfl
  unfold string at h ⊢
  simp only [hcs] at h ⊢
  obtain ⟨limits, hl, h⟩ := bind_eq_ok.mp (show (liftM (Limits.ofParams params) >>= _) = _ from h)
  obtain ⟨cs, _, h⟩ := bind_eq_ok.mp h
  rw [ite_refuse_eq_ok, ite_refuse_eq_ok] at h
  obtain ⟨_, hs, h⟩ := h
  obtain ⟨allowed, hm, h⟩ := bind_eq_ok.mp
    (show (liftM (params.maskAllows (limits.cut cs)) >>= _) = _ from h)
  obtain ⟨ha, hr⟩ := ite_accept_eq_ok.mp h
  refine ⟨_, hr, ?_⟩
  subst ha
  have hl := lift_eq_ok.mp hl
  have hm := lift_eq_ok.mp hm
  have ht : (mode'.strict && limits.tooLong (limits.cut cs).length) = false := by
    rw [limits.tooLong_cut, Bool.and_false]
  simp only [hl, readText, String.toList_ofList]
  refine (if_neg (by rw [ht]; decide)).trans ((if_neg ?_).trans ?_)
  · rwa [limits.cut_cut]
  · show (do
      let allowed ← (liftM (params.maskAllows (limits.cut (limits.cut cs))) : Except Stop Bool)
      if allowed then accept (.text (String.ofList (limits.cut (limits.cut cs))))
      else refuse "Data doesn't respect contract (string doesn't match the given mask).") = _
    rw [limits.cut_cut, hm]
    rfl

variable {inner inner' : Delegate}

/-- What one pass makes of a part of the data, the other leaves as it is. -/
def Delegate.Repeats (inner inner' : Delegate) (contract : Value) : Prop :=
  ∀ item result, inner.part item contract = .ok result →
    inner'.part result.value contract = .ok result

theorem element_eq_ok (h : element inner index contract item = .ok v) :
    ∃ result, inner.part item contract = .ok result ∧ v = result.value := by
  unfold element at h
  split at h
  · rename_i result hr
    cases h
    exact ⟨result, hr, rfl⟩
  · cases h
  · cases h

theorem uniform_repeat (index index' : Nat) (hin : inner.Repeats inner' contract)
    (h : uniform inner contract index items = .ok vs) :
    uniform inner' contract index' vs = .ok vs ∧ vs.length = items.length := by
  induction items generalizing index index' vs with
  | nil =>
    cases h
    exact ⟨rfl, rfl⟩
  | cons item items ih =>
    rw [uniform] at h
    obtain ⟨v, hv, h⟩ := bind_eq_ok.mp h
    obtain ⟨ws, hw, h⟩ := bind_eq_ok.mp h
    cases h
    obtain ⟨result, hr, rfl⟩ := element_eq_ok hv
    obtain ⟨hws, hlen⟩ := ih (index + 1) (index' + 1) hw
    refine ⟨?_, congrArg Nat.succ hlen⟩
    simp only [uniform, element, hin item result hr, hws, bind, Except.bind]
    rfl

/-- A list whose elements are let through again is let through as it is. -/
theorem list_repeat (hv : (params.get "values").isTrue = false)
    (hin : params.get "contract" ≠ .null → inner.Repeats inner' (params.get "contract"))
    (h : list inner mode params data = .ok r) :
    ∃ v, r = ⟨v, v⟩ ∧ list inner' mode' params v = accept v := by
  have hagain (limits : Limits) (vs : List Value) (hl : Limits.ofParams params = .ok limits)
      (ht : limits.tooLong vs.length = false) (hs : ¬limits.tooShort vs.length)
      (hu : params.get "contract" ≠ .null → uniform inner' (params.get "contract") 0 vs = .ok vs) :
      list inner' mode' params (.list vs) = accept (.list vs) := by
    have hst : (mode'.strict && limits.tooLong vs.length) = false := by rw [ht, Bool.and_false]
    unfold list
    rw [hl]
    refine (if_neg (by rw [hst]; decide)).trans ?_
    simp only [Limits.cut_of_not_tooLong ht]
    rw [if_neg hs, if_neg (by rw [hv]; decide)]
    split
    · rfl
    · rename_i hc
      rw [hu hc]
      rfl
  unfold list at h
  obtain ⟨limits, hl, h⟩ := bind_eq_ok.mp h
  have hl := lift_eq_ok.mp hl
  split at h
  · cases h
  · rename_i items _
    rw [ite_refuse_eq_ok, ite_refuse_eq_ok, hv] at h
    obtain ⟨_, hs, h⟩ := h
    rw [if_neg (by decide)] at h
    split at h
    · rename_i hc
      refine ⟨_, accept_eq_ok.mp h, ?_⟩
      exact hagain limits _ hl (limits.tooLong_cut items) hs fun hne => absurd hc hne
    · rename_i hc
      obtain ⟨vs, hvs, h⟩ := bind_eq_ok.mp h
      obtain ⟨hu, hlen⟩ := uniform_repeat 0 0 (hin hc) hvs
      refine ⟨_, accept_eq_ok.mp h, hagain limits vs hl ?_ ?_ fun _ => hu⟩
      · rw [hlen]
        exact limits.tooLong_cut items
      · rwa [hlen]

end Check
end Covenant
