import Covenant.Proofs.Check.Default
import Covenant.Proofs.Check.Record
import Covenant.Proofs.Refine

/-! Where the parts of the data end alike in two runs, so does its check. -/

namespace Covenant

/-- What a check stops with when no default mends it. -/
def Stop.failure : Stop → Failure
  | .refused m => .rejected m
  | .failed f => f

namespace Check

/-- The contracts of the elements of a list, up to the entry that stands for the rest. -/
def elementContracts (params : Params) : List Value :=
  if (params.get "values").isTrue then
    match positions (params.get "values") with
    | .ok contracts => (contracts.map trimText).takeWhile fun c => !c.equals (.text restMarker)
    | .error _ => []
  else [params.get "contract"]

/-- The contracts of the fields of a record. -/
def fieldContracts (keys : Entries) : List Value :=
  keys.filterMap fun e => (Field.ofEntry e.1 e.2).toOption.bind Field.contract?

/-- The parameters that base64 holds its content to. -/
def contentParams (mimes : List Value) : Params :=
  if mimes.isEmpty then [("type", .text "binary")]
  else [("type", .text "binary"), ("mime", .list mimes)]

theorem get_default_contentParams (mimes : List Value) :
    (contentParams mimes).get "default" = .null := by
  unfold contentParams
  split
  · rfl
  · rfl

end Check

/-- The contracts of the parts of data that a check hands on. -/
def Kind.parts (kind : Kind) (params : Params) : List Value :=
  match kind with
  | list => Check.elementContracts params
  | assoc => (Check.recordKeys params).toOption.elim [] Check.fieldContracts
  | json => [params.get "contract"]
  | _ => []

/-- The parts of data depend on the contracts of its elements, its content and its keys alone. -/
theorem Kind.parts_congr (kind : Kind) {p q : Params}
    (h : ∀ name ∈ ["values", "contract", "keys"], p.get name = q.get name) :
    kind.parts p = kind.parts q := by
  have hv := h "values" (by simp)
  have hc := h "contract" (by simp)
  have hk := h "keys" (by simp)
  cases kind with
  | list => simp only [parts, Check.elementContracts, hv, hc]
  | assoc => simp only [parts, Check.recordKeys, hk]
  | json => simp only [parts, hc]
  | _ => rfl

namespace Check

/-- The parts of data that have a contract end alike. -/
def Delegate.Refines (cut : Failure → Prop) (inner inner' : Delegate) (contract : Value) : Prop :=
  ∀ item, Covenant.Refines cut (inner.part item contract) (inner'.part item contract)

-- Of the rejections all may cut a run short, or none: a check has messages of its own for them.
variable {cut : Failure → Prop} {inner inner' : Delegate}
  (hm : ∀ m m', cut (.rejected m) → cut (.rejected m'))
include hm

/-- What is handed on ends alike in the check that hands it on, under a message of its own. -/
theorem handed_refines {x y : Except Failure Result} {k : Result → Except Stop α}
    {message : String → String} : Refines cut x y → Refines (cut ∘ Stop.failure)
      (match x with
        | .ok result => k result
        | .error (.rejected m) => refuse (message m)
        | .error failure => .error (.failed failure))
      (match y with
        | .ok result => k result
        | .error (.rejected m) => refuse (message m)
        | .error failure => .error (.failed failure)) := by
  rintro (⟨f, hf, rfl⟩ | rfl)
  · cases f with
    | rejected m => exact .inl ⟨.refused (message m), hm m (message m) hf, rfl⟩
    | malformed m => exact .inl ⟨.failed (.malformed m), hf, rfl⟩
    | crashed fault => exact .inl ⟨.failed (.crashed fault), hf, rfl⟩
  · exact .refl _

theorem element_refines (h : inner.Refines cut inner' contract) (index : Nat) (item : Value) :
    Refines (cut ∘ Stop.failure) (element inner index contract item)
      (element inner' index contract item) := by
  rw [element, element]
  exact handed_refines hm (h item)

theorem uniform_refines (h : inner.Refines cut inner' contract) (index : Nat)
    (items : List Value) :
    Refines (cut ∘ Stop.failure) (uniform inner contract index items)
      (uniform inner' contract index items) := by
  induction items generalizing index with
  | nil => exact .refl _
  | cons item items ih =>
    rw [uniform, uniform]
    exact (element_refines hm h index item).bind fun v => (ih (index + 1)).bind fun vs => .refl _

theorem positional_refines (strict : Bool) (index : Nat) (items contracts : List Value)
    (h : ∀ c ∈ (contracts.map trimText).takeWhile fun c => !c.equals (.text restMarker),
      inner.Refines cut inner' c) :
    Refines (cut ∘ Stop.failure) (positional inner strict index items contracts)
      (positional inner' strict index items contracts) := by
  induction items generalizing index contracts with
  | nil => cases contracts <;> exact .refl _
  | cons item items ih =>
    cases contracts with
    | nil => exact .refl _
    | cons contract contracts =>
      rw [positional, positional]
      by_cases hr : (trimText contract).equals (.text restMarker)
      · rw [if_pos hr, if_pos hr]
        exact .refl _
      · rw [if_neg hr, if_neg hr]
        rw [List.map_cons, List.takeWhile_cons_of_pos (by simpa using hr),
          List.forall_mem_cons] at h
        exact (element_refines hm h.1 index item).bind fun v =>
          (ih (index + 1) contracts h.2).bind fun vs => .refl _

theorem list_refines (h : ∀ c ∈ elementContracts params, inner.Refines cut inner' c) :
    Refines (cut ∘ Stop.failure) (list inner mode params data)
      (list inner' mode params data) := by
  refine .bind (.refl _) fun limits => ?_
  dsimp only
  split
  · exact .refl _
  · refine .ite (.refl _) (.ite (.refl _) ?_)
    rw [elementContracts] at h
    split
    · rename_i hv
      rw [if_pos hv] at h
      refine .bind_of (.refl _) fun contracts hc => .bind ?_ fun vs => .refl _
      rw [lift_eq_ok.mp hc] at h
      exact positional_refines hm _ _ _ _ h
    · rename_i hv
      rw [if_neg hv, List.forall_mem_singleton] at h
      split
      · exact .refl _
      · exact .bind (uniform_refines hm h _ _) fun vs => .refl _

omit hm in
theorem mem_fieldContracts : c ∈ fieldContracts keys ↔
    ∃ e ∈ keys, ∃ field, Field.Reads e field ∧ field.contract? = some c := by
  simp only [fieldContracts, List.mem_filterMap]
  refine exists_congr fun e => and_congr_right fun _ => ?_
  rw [Option.bind_eq_some_iff]
  refine exists_congr fun field => and_congr_left fun _ => ?_
  rw [Field.Reads]
  cases Field.ofEntry e.1 e.2 <;> simp [Except.toOption]

omit hm in
theorem readFields_refines (h : ∀ c ∈ fieldContracts keys, inner.Refines cut inner' c)
    (reading : Reading) :
    Refines (cut ∘ Stop.failure) (readFields inner data reading keys)
      (readFields inner' data reading keys) := by
  induction keys generalizing reading with
  | nil => exact .refl _
  | cons e keys ih =>
    have hrest : ∀ c ∈ fieldContracts keys, inner.Refines cut inner' c := fun c hc => by
      obtain ⟨e', he, hf⟩ := mem_fieldContracts.mp hc
      exact h c (mem_fieldContracts.mpr ⟨e', List.mem_cons_of_mem e he, hf⟩)
    rw [readFields, readFields]
    refine .bind_of (.refl _) fun field hf => ?_
    cases field with
    | others contract => exact ih hrest _
    | named name mandatory contract =>
      dsimp only
      split
      · have hc : contract ∈ fieldContracts (e :: keys) :=
          mem_fieldContracts.mpr ⟨e, by simp, _, lift_eq_ok.mp hf, rfl⟩
        exact .bind (.lift (fun _ hf => hf) (h contract hc _)) fun result => ih hrest _
      · exact .ite (.refl _) (ih hrest _)

omit hm in
theorem keepOthers_refines (h : contract.isTrue → inner.Refines cut inner' contract)
    (output others : Entries) :
    Refines cut (keepOthers inner contract output others)
      (keepOthers inner' contract output others) := by
  induction others generalizing output with
  | nil => exact .refl _
  | cons e others ih =>
    rw [keepOthers, keepOthers]
    split
    · rename_i ht
      exact .bind (h ht e.2) fun result => ih _
    · exact ih _

omit hm in
theorem assoc_refines
    (h : ∀ c ∈ (recordKeys params).toOption.elim [] fieldContracts, inner.Refines cut inner' c) :
    Refines (cut ∘ Stop.failure) (assoc inner mode params data)
      (assoc inner' mode params data) := by
  refine .bind_of (.refl _) fun keys hk => ?_
  rw [lift_eq_ok.mp hk] at h
  cases data with
  | map entries =>
    refine (readFields_refines h _).bind_of fun reading hr => ?_
    dsimp only
    split
    · rename_i contract hw
      refine .bind (.lift (fun _ hf => hf) (keepOthers_refines (fun ht => ?_) _ _)) fun _ => .refl _
      obtain ⟨fields, kept, hf, _, rfl⟩ := readFields_eq_ok hr
      rcases Field.wildcard_eq_some hw with rfl | he | ⟨field, hm, hc⟩
      · cases ht
      · cases he
      · obtain ⟨e, he, hread⟩ := exists_of_mem_right hf hm
        exact h contract (mem_fieldContracts.mpr ⟨e, he, field, hread, hc⟩)
    · exact .refl _
  | _ => exact .refl _

theorem json_refines (mode : Mode) (data : Value)
    (h : inner.Refines cut inner' (params.get "contract")) :
    Refines (cut ∘ Stop.failure) (json inner mode params data)
      (json inner' mode params data) := by
  refine .bind (.refl _) fun limits => ?_
  dsimp only
  split
  · refine .ite (.refl _) (.ite (.refl _) ?_)
    split
    · exact .refl _
    · refine .ite (.refl _) ?_
      exact handed_refines hm (h _)
  · exact .refl _

theorem base64_refines {content content' : Params → Value → Except Failure Result}
    (h : ∀ mimes v, Refines cut (content (contentParams mimes) v)
      (content' (contentParams mimes) v)) :
    Refines (cut ∘ Stop.failure) (base64 content mode params data)
      (base64 content' mode params data) := by
  refine .bind (.refl _) fun limits => .bind (.refl _) fun mimes => ?_
  dsimp only
  split
  · split
    · exact .refl _
    · refine .ite (.refl _) ?_
      exact handed_refines hm (h _ _)
  · exact .refl _

end Check

namespace Kind

variable {cut : Failure → Prop}

/-- Where the parts of the data end alike, so does its check. -/
theorem check_refines {inner inner' : Check.Delegate} (kind : Kind)
    (hm : ∀ m m', cut (.rejected m) → cut (.rejected m'))
    (hp : ∀ c ∈ kind.parts params, inner.Refines cut inner' c)
    (hc : kind = base64 → ∀ mimes v, Refines cut (inner.content (Check.contentParams mimes) v)
      (inner'.content (Check.contentParams mimes) v)) :
    Refines (cut ∘ Stop.failure) (kind.check inner mode params data)
      (kind.check inner' mode params data) := by
  cases kind with
  | list => exact Check.list_refines hm hp
  | assoc => exact Check.assoc_refines hp
  | json => exact Check.json_refines hm mode data (hp _ (List.mem_singleton_self _))
  | base64 => exact Check.base64_refines hm (hc rfl)
  | _ => exact .refl _

end Kind

theorem Check.settle_refines {cut : Failure → Prop} {x y : Outcome}
    (h : Refines (cut ∘ Stop.failure) x y) : Refines cut (settle x) (settle y) := by
  rcases h with ⟨stop, hs, rfl⟩ | rfl
  · cases stop with
    | refused m => exact .inl ⟨.rejected m, hs, rfl⟩
    | failed f => exact .inl ⟨f, hs, rfl⟩
  · exact .refl _

end Covenant
