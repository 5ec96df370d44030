import Covenant.Proofs.Check.Final
import Covenant.Proofs.Check.Parameters

/-! A default stands in for refused data, once. -/

namespace Covenant

/-- What comes of a check when there is no default: data that is refused is rejected. -/
def Check.settle : Outcome → Except Failure Result
  | .ok result => .ok result
  | .error (.failed failure) => .error failure
  | .error (.refused message) => .error (.rejected message)

/-- The parts of data that has none. -/
def Check.noParts : Delegate :=
  ⟨fun _ _ => .error (.malformed ""), fun _ _ => .error (.malformed "")⟩

theorem Check.settle_eq_ok : settle x = .ok r ↔ x = .ok r := by
  cases x with
  | ok r' => simp [settle]
  | error s => cases s <;> simp [settle]

theorem Check.settle_eq_crashed :
    settle x = .error (.crashed fault) ↔ x = .error (.failed (.crashed fault)) := by
  cases x with
  | ok r => simp [settle]
  | error s => cases s <;> simp [settle]

namespace Kind

variable {kind : Kind} {inner : Check.Delegate} {mode : Mode} {params : Params} {data : Value}

theorem validate_of_accepted (h : kind.check inner mode params data = .ok r) :
    kind.validate inner mode params data = .ok r := by
  rw [validate, h]

theorem validate_of_failed (h : kind.check inner mode params data = .error (.failed f)) :
    kind.validate inner mode params data = .error f := by
  rw [validate, h]

theorem validate_of_refused (hk : kind ≠ null) (hd : params.get "default" ≠ .null)
    (h : kind.check inner mode params data = .error (.refused m)) :
    kind.validate inner mode params data = (do
      Check.settle
        (kind.check inner mode params (← kind.nativeDefault mode (params.get "default")))) := by
  rw [validate, h]
  simp only [check_put_default hk]
  rfl

theorem validate_without_default (hd : params.get "default" = .null) :
    kind.validate inner mode params data = Check.settle (kind.check inner mode params data) := by
  rw [validate, hd]
  cases kind.check inner mode params data with
  | ok r => rfl
  | error s => cases s <;> rfl

/-- What comes of data is let through of the data itself or, when that is refused, of a default. -/
theorem check_of_validate_eq_ok (hk : kind ≠ null)
    (h : kind.validate inner mode params data = .ok r) :
    kind.check inner mode params data = .ok r ∨
      (∃ m, kind.check inner mode params data = .error (.refused m)) ∧
        ∃ d, kind.nativeDefault mode (params.get "default") = .ok d ∧
          kind.check inner mode params d = .ok r := by
  cases hc : kind.check inner mode params data with
  | ok r' =>
    rw [validate_of_accepted hc] at h
    exact .inl (congrArg Except.ok (Except.ok.inj h))
  | error stop =>
    cases stop with
    | failed f =>
      rw [validate_of_failed hc] at h
      cases h
    | refused m =>
      by_cases hd : params.get "default" = .null
      · rw [validate_without_default hd, hc] at h
        cases h
      · rw [validate_of_refused hk hd hc] at h
        obtain ⟨d, hd, h⟩ := bind_eq_ok.mp h
        exact .inr ⟨⟨m, rfl⟩, d, hd, Check.settle_eq_ok.mp h⟩

theorem nativeDefault_eq (hk : kind ∉ [bool, int, float]) (mode : Mode) (default : Value) :
    kind.nativeDefault mode default = .ok default := by
  simp only [List.mem_cons, List.not_mem_nil, or_false, not_or] at hk
  have hread : kind.readDefault default = .ok default := by
    unfold readDefault
    split
    · exact absurd rfl hk.1
    · exact absurd rfl hk.2.1
    · exact absurd rfl hk.2.2
    · rfl
  rw [nativeDefault, hread, ite_self]

/-- For most kinds the default itself stands in for the data. -/
theorem check_data_or_default (hk : kind ∉ [null, bool, int, float])
    (h : kind.validate inner mode params data = .ok r) :
    ∃ d ∈ [data, params.get "default"], kind.check inner mode params d = .ok r := by
  obtain ⟨hnull, hk⟩ := List.ne_and_not_mem_of_not_mem_cons hk
  rcases check_of_validate_eq_ok hnull h with h | ⟨_, d, hd, h⟩
  · exact ⟨data, by simp, h⟩
  · rw [nativeDefault_eq hk, Except.ok.injEq] at hd
    exact ⟨d, by simp [hd], h⟩

theorem validate_eq_ok (hk : kind ≠ null) (h : kind.validate inner mode params data = .ok r) :
    ∃ d, kind.check inner mode params d = .ok r := by
  rcases check_of_validate_eq_ok hk h with h | ⟨_, d, _, h⟩
  · exact ⟨data, h⟩
  · exact ⟨d, h⟩

/-- What a check fails with does not reject the data, so that no default is tried. -/
theorem settle_of_failed (ha : kind ≠ assoc)
    (h : kind.check inner mode params data = .error (.failed f)) (m : String) :
    Check.settle (kind.check inner mode params data) ≠ .error (.rejected m) := by
  intro he
  rw [h] at he
  exact check_final ha f h m (Except.error.inj he)

/-- With a default, a check ends as it does without one, unless that rejects the data: then it ends
as the check of the default without one. -/
theorem validate_put_default (hn : kind ≠ null) (ha : kind ≠ assoc)
    (hp : params.get "default" = .null) (hd : d ≠ .null) :
    kind.validate inner mode (params.put "default" d) data =
      match kind.validate inner mode params data with
      | .error (.rejected _) => do
        let d ← if mode.inline then kind.readDefault d else .ok d
        kind.validate inner mode params d
      | outcome => outcome := by
  have hc : ∀ data, kind.check inner mode (params.put "default" d) data =
      kind.check inner mode params data := fun data => check_put_default hn d
  rw [validate_without_default hp]
  cases h : kind.check inner mode params data with
  | ok r => exact validate_of_accepted ((hc data).trans h)
  | error s =>
    cases s with
    | failed f =>
      rw [validate_of_failed ((hc data).trans h)]
      cases f with
      | rejected m => exact absurd (congrArg Check.settle h) (settle_of_failed ha h m)
      | malformed m => rfl
      | crashed fault => rfl
    | refused m =>
      have hd' : Params.get (params.put "default" d) "default" ≠ .null := by
        rw [Params.get_put_self]
        exact hd
      rw [validate_of_refused hn hd' ((hc data).trans h), Params.get_put_self]
      simp only [hc, validate_without_default hp, nativeDefault, Check.settle]
      split
      · rfl
      · rfl

theorem validate_seven_for_word :
    Kind.int.validate ⟨fun _ _ => .error (.malformed ""), fun _ _ => .error (.malformed "")⟩
      ⟨false, true⟩ (Named.put [] "default" (.text "7")) (.text "seven") =
        .ok ⟨.int 7, .int 7⟩ :=
  (validate_put_default (by decide) (by decide) rfl (by simp)).trans rfl

end Kind
end Covenant
