import Covenant.Proofs.Check.Flag

/-! Under parameters that are alike, a check comes to the same. -/

namespace Covenant

open List (Forall₂)

variable {R : Value → Value → Prop} {listed : Bool} {p p' : Params} {inner : Check.Delegate}
  {mode : Mode} {data : Value}

namespace Check

section Parts

variable (hp : ∀ c c', R c c' → ∀ item, inner.part item c = inner.part item c')
include hp

theorem element_alike (h : R c c') (index : Nat) (item : Value) :
    element inner index c item = element inner index c' item := by
  rw [element, element, hp c c' h item]

theorem uniform_alike (h : R c c') (index : Nat) (items : List Value) :
    uniform inner c index items = uniform inner c' index items := by
  induction items generalizing index with
  | nil => rfl
  | cons item items ih => rw [uniform, uniform, element_alike hp h, ih]

variable (hR : AlikeContracts R)
include hR

theorem positional_alike (h : Forall₂ R cs cs') (strict : Bool) (index : Nat)
    (items : List Value) :
    positional inner strict index items cs = positional inner strict index items cs' := by
  induction h generalizing index items with
  | nil => rfl
  | cons hc h ih =>
    cases items with
    | nil => rfl
    | cons item items =>
      obtain ⟨htrim, hrest⟩ := hR.trimText hc
      rw [positional, positional, hrest, element_alike hp htrim, ih]

theorem list_alike (h : p.Alike R listed p') :
    list inner mode p data = list inner mode p' data := by
  have hl : Limits.ofParams p = Limits.ofParams p' :=
    (h.agreeOn (show ∀ name ∈ ["minLen", "maxLen"], _ by decide)).limits (by decide) (by decide)
  have hvalues : (p.get "values").isTrue = (p'.get "values").isTrue ∧ ∀ items,
      (liftM (positions (p.get "values")) >>= positional inner mode.strict 0 items) =
        liftM (positions (p'.get "values")) >>= positional inner mode.strict 0 items := by
    rcases (h.get "values").of_values with he | ⟨_, cs, cs', hcs, ⟨he, he'⟩ | ⟨he, he'⟩⟩
    · rw [he]
      exact ⟨rfl, fun _ => rfl⟩
    all_goals
      rw [he, he']
      exact ⟨by cases hcs <;> rfl, positional_alike hp hR hcs mode.strict 0⟩
  have hcontract := (h.get "contract").of_contract hR
  rw [list, list, hl]
  refine bind_congr fun limits => ?_
  dsimp only
  split
  · rfl
  · refine if_congr Iff.rfl rfl (if_congr Iff.rfl rfl (if_congr (by rw [hvalues.1]) ?_ ?_))
    · calc
        _ = (liftM (positions (p.get "values")) >>= positional inner mode.strict 0 _) >>=
            fun vs => accept (.list vs) := (bind_assoc _ _ _).symm
        _ = (liftM (positions (p'.get "values")) >>= positional inner mode.strict 0 _) >>=
            fun vs => accept (.list vs) := by rw [hvalues.2]
        _ = _ := bind_assoc _ _ _
    · rcases hR.mappings _ _ hcontract with he | ⟨_, _, _, _, he, he'⟩
      · rw [he]
      · rw [he, he'] at hcontract ⊢
        simp only [uniform_alike hp hcontract]

theorem readFields_alike (h : Forall₂ (KeyAlike R) keys keys') {entries : Entries}
    {known known' : Option Value} (hk : Option.Rel R known known') (declared : List String)
    (output : Entries) :
    Related (fun r r' : Reading => r.declared = r'.declared ∧ r.output = r'.output ∧
        Option.Rel R r.wildcard r'.wildcard)
      (readFields inner entries ⟨declared, known, output⟩ keys)
      (readFields inner entries ⟨declared, known', output⟩ keys') := by
  induction h generalizing known known' declared output with
  | nil => exact .ok ⟨rfl, rfl, hk⟩
  | @cons e e' keys keys' he h ih =>
    obtain ⟨key, c⟩ := e
    obtain ⟨key', c'⟩ := e'
    rw [readFields, readFields]
    refine (he.ofEntry hR).lift.bind fun field field' hf => ?_
    cases hf with
    | others hc => exact ih (.some (getD_alike hc (getD_alike hk (hR.refl .null)))) declared output
    | @named c c' name mandatory hc =>
      dsimp only
      split
      · rw [hp c c' hc]
        exact Related.bind (.refl (fun _ => rfl) _) fun r r' hr => hr ▸ ih hk _ _
      · split
        · exact .error _
        · exact ih hk _ _

theorem keepOthers_alike (h : R c c') (output others : Entries) :
    keepOthers inner c output others = keepOthers inner c' output others := by
  induction others generalizing output with
  | nil => rfl
  | cons e others ih => simp only [keepOthers, hR.isTrue h, hp c c' h, ih]

omit hp in
theorem recordKeys_alike (h : p.Alike R listed p') :
    Related (Forall₂ (KeyAlike R)) (recordKeys p) (recordKeys p') := by
  rw [recordKeys, recordKeys]
  rcases (h.get "keys").of_keys with he | ⟨keys, keys', hk, he, he'⟩
  · rw [he]
    exact .refl (fun keys => List.forall₂_same.mpr fun e _ => .refl hR e) _
  · rw [he, he']
    cases hk with
    | nil => exact .error _
    | cons hk h => exact .ok (.cons hk h)

theorem assoc_alike (h : p.Alike R listed p') :
    assoc inner mode p data = assoc inner mode p' data := by
  rw [assoc, assoc]
  refine (recordKeys_alike hR h).lift.bind_eq fun keys keys' hk => ?_
  cases data with
  | map entries =>
    refine (readFields_alike hp hR hk .none [] []).bind_eq fun r r' hr => ?_
    obtain ⟨declared, wildcard, output⟩ := r
    obtain ⟨declared', wildcard', output'⟩ := r'
    obtain ⟨rfl, rfl, hw⟩ := hr
    cases hw with
    | none => rfl
    | some hw => simp only [keepOthers_alike hp hR hw]
  | _ => rfl

theorem json_alike (h : p.Alike R listed p') :
    json inner mode p data = json inner mode p' data := by
  have hl : Limits.ofParams p = Limits.ofParams p' :=
    (h.agreeOn (show ∀ name ∈ ["minLen", "maxLen"], _ by decide)).limits (by decide) (by decide)
  have hc := (h.get "contract").of_contract hR
  simp only [json, hl, hR.isTrue hc, hp _ _ hc]

end Parts

theorem clamps_alike (h : p.Alike R listed p') : clamps p = clamps p' := by
  rw [clamps, clamps]
  exact ParamAlike.ofValue (getD_alike (h.get? "clamp") (.same _)) (by decide) "clamp"

theorem bool_alike (h : p.Alike R listed p') : bool mode p data = bool mode p' data := by
  unfold bool
  rcases (h.get "const").of_flag (by decide) with he | ⟨s, b, hw, he, he'⟩
  · rw [he]
  · simp only [he, he', Flag.ofValue_text hw]
    rfl

theorem int_alike (h : p.Alike R listed p') : int mode p data = int mode p' data := by
  rw [int, int, (h.get "min").eq (by decide), (h.get "max").eq (by decide), clamps_alike h]

theorem float_alike (h : p.Alike R listed p') : float mode p data = float mode p' data := by
  rw [float, float, (h.get "min").eq (by decide), (h.get "max").eq (by decide), clamps_alike h]

end Check

namespace Kind

variable (hp : ∀ c c', R c c' → ∀ item, inner.part item c = inner.part item c')
  (hR : AlikeContracts R)
include hp hR

/-- The values of an enumeration are no contracts; under other parameters that are alike, a check
comes to the same. -/
theorem check_alike (kind : Kind) (hl : listed = true → kind ≠ enum) (h : p.Alike R listed p')
    (data : Value) : kind.check inner mode p data = kind.check inner mode p' data := by
  cases kind with
  | bool => exact Check.bool_alike h
  | int => exact Check.int_alike h
  | float => exact Check.float_alike h
  | list => exact Check.list_alike hp hR h
  | assoc => exact Check.assoc_alike hp hR h
  | json => exact @Check.json_alike _ _ _ _ _ mode _ hp hR h
  | enum =>
    have hv : p.get "values" = p'.get "values" := by
      rcases (h.get "values").of_values with he | ⟨ht, _⟩
      · exact he
      · exact absurd rfl (hl ht)
    rw [check, check, Check.enum, Check.enum, Params.list, Params.list, hv]
  | _ => exact check_congr _ (h.agreeOn (by decide))

theorem validate_alike (kind : Kind) (hl : listed = true → kind ≠ enum)
    (h : p.Alike R listed p') (data : Value) :
    kind.validate inner mode p data = kind.validate inner mode p' data := by
  have hput : Params.Alike R listed (p.put "default" .null) (p'.put "default" .null) :=
    h.put (.same _)
  simp only [validate, check_alike hp hR kind hl h, check_alike hp hR kind hl hput,
    (h.get "default").eq (by decide)]

end Kind
end Covenant
