import Covenant.Proofs.Check.Repeat
import Covenant.Proofs.Entries
import Mathlib.Data.List.Forall2

/-! What a check keeps of a record, it keeps again. -/

namespace Covenant.Check

namespace Field

def Reads (entry : Value × Value) (field : Field) : Prop := ofEntry entry.1 entry.2 = .ok field

def name? : Field → Option String
  | others _ => none
  | named name _ _ => some name

/-- The contract that is given for what a field stands for. -/
def contract? : Field → Option Value
  | others contract => contract
  | named _ _ contract => some contract

def names (fields : List Field) : List String := fields.filterMap name?

/-- The contract of the undeclared keys, as it is known behind a field. -/
def wildcard (known : Option Value) : Field → Option Value
  | others contract => some (contract.getD (known.getD .null))
  | named _ _ _ => known

end Field

/-- The entries that are kept of a record for its declared keys. -/
inductive Kept (inner : Delegate) (data : Entries) : List Field → Entries → Prop
  | nil : Kept inner data [] []
  | others (h : Kept inner data fields kept) : Kept inner data (.others contract :: fields) kept
  | found (hd : data.get? (.text name) = some value) (hr : inner.part value contract = .ok result)
      (h : Kept inner data fields kept) :
      Kept inner data (.named name mandatory contract :: fields)
        ((.text name, result.value) :: kept)
  | absent (hd : data.get? (.text name) = none) (h : Kept inner data fields kept) :
      Kept inner data (.named name false contract :: fields) kept

/-- What is known of a record behind fields that keep these entries. -/
def Reading.after (reading : Reading) (fields : List Field) (kept : Entries) : Reading :=
  ⟨(Field.names fields).reverse ++ reading.declared, fields.foldl Field.wildcard reading.wildcard,
    reading.output.update kept⟩

theorem Reading.after_named (reading : Reading) (name : String) (mandatory : Bool)
    (contract : Value) (fields : List Field) (kept : Entries) :
    after { reading with declared := name :: reading.declared } fields kept =
      reading.after (.named name mandatory contract :: fields) kept := by
  simp [after, Field.names, Field.name?, Field.wildcard]

theorem Reading.after_kept (reading : Reading) (name : String) (mandatory : Bool)
    (contract : Value) (fields : List Field) (kept : Entries) (v : Value) :
    after ⟨name :: reading.declared, reading.wildcard, reading.output.put (.text name) v⟩ fields
        kept =
      reading.after (.named name mandatory contract :: fields) ((.text name, v) :: kept) := by
  simp [after, Field.names, Field.name?, Field.wildcard, Entries.update]

variable {inner inner' : Delegate} {data data' : Entries} {reading final : Reading}
  {fields : List Field} {keys kept : Entries}

theorem readFields_eq_ok (h : readFields inner data reading keys = .ok final) :
    ∃ fields kept, List.Forall₂ Field.Reads keys fields ∧ Kept inner data fields kept ∧
      final = reading.after fields kept := by
  induction keys generalizing reading with
  | nil =>
    cases h
    exact ⟨[], [], .nil, .nil, rfl⟩
  | cons entry keys ih =>
    obtain ⟨key, contract⟩ := entry
    rw [readFields] at h
    obtain ⟨field, hf, h⟩ := bind_eq_ok.mp h
    have hf := lift_eq_ok.mp hf
    cases field with
    | others c =>
      obtain ⟨fields, kept, hr, hk, he⟩ := ih h
      exact ⟨.others c :: fields, kept, .cons hf hr, .others hk, he⟩
    | named name mandatory c =>
      dsimp only at h
      split at h
      · rename_i value hd
        obtain ⟨result, hp, h⟩ := bind_eq_ok.mp h
        obtain ⟨fields, kept, hr, hk, he⟩ := ih h
        refine ⟨.named name mandatory c :: fields, (.text name, result.value) :: kept, .cons hf hr,
          .found hd (lift_eq_ok.mp hp) hk, he.trans ?_⟩
        exact reading.after_kept name mandatory c fields kept result.value
      · rename_i hd
        obtain ⟨hm, h⟩ := ite_refuse_eq_ok.mp h
        obtain ⟨fields, kept, hr, hk, he⟩ := ih h
        cases mandatory with
        | true => exact absurd rfl hm
        | false =>
          refine ⟨.named name false c :: fields, kept, .cons hf hr, .absent hd hk, he.trans ?_⟩
          exact reading.after_named name false c fields kept

theorem Kept.readFields (hr : List.Forall₂ Field.Reads keys fields)
    (hk : Kept inner data fields kept) (reading : Reading) :
    readFields inner data reading keys = .ok (reading.after fields kept) := by
  induction hk generalizing keys reading with
  | nil =>
    cases hr
    rfl
  | others hk ih =>
    cases hr with
    | cons hf hr =>
      rw [Check.readFields, show Field.ofEntry _ _ = _ from hf]
      exact ih hr _
  | found hd hp hk ih =>
    cases hr with
    | cons hf hr =>
      rw [Check.readFields, show Field.ofEntry _ _ = _ from hf]
      simp only [lift_ok, bind, Except.bind, hd, hp]
      exact (ih hr _).trans (congrArg Except.ok (reading.after_kept ..))
  | absent hd hk ih =>
    cases hr with
    | cons hf hr =>
      rw [Check.readFields, show Field.ofEntry _ _ = _ from hf]
      simp only [lift_ok, bind, Except.bind, hd]
      exact (ih hr _).trans (congrArg Except.ok (reading.after_named ..))

theorem Kept.found_names (hk : Kept inner data fields kept) :
    ∃ found : List String, kept.map (·.1) = found.map Value.text ∧
      found.Sublist (Field.names fields) := by
  induction hk with
  | nil => exact ⟨[], rfl, .slnil⟩
  | others hk ih => exact ih
  | @found name _ _ _ _ _ _ _ _ hk ih =>
    obtain ⟨found, he, hs⟩ := ih
    exact ⟨name :: found, congrArg (Value.text name :: ·) he, hs.cons_cons name⟩
  | @absent name _ _ _ _ hk ih =>
    obtain ⟨found, he, hs⟩ := ih
    exact ⟨found, he, hs.cons name⟩

theorem isDeclared_iff {names : List String} :
    isDeclared names v = true ↔ ∃ name ∈ names, v = .text name := by
  cases v <;> simp [isDeclared]

theorem isDeclared_reverse (names : List String) (v : Value) :
    isDeclared names.reverse v = isDeclared names v := by
  cases v <;> simp [isDeclared]

theorem Kept.declared (hk : Kept inner data fields kept) :
    ∀ e ∈ kept, isDeclared (Field.names fields) e.1 := by
  intro e he
  obtain ⟨found, hf, hs⟩ := hk.found_names
  have hm : e.1 ∈ found.map Value.text := hf ▸ List.mem_map_of_mem he
  obtain ⟨name, hn, he⟩ := List.mem_map.mp hm
  exact isDeclared_iff.mpr ⟨name, hs.subset hn, he.symm⟩

theorem Kept.distinct (hk : Kept inner data fields kept) (hn : (Field.names fields).Nodup) :
    kept.Distinct := by
  obtain ⟨found, he, hs⟩ := hk.found_names
  exact Entries.distinct_of_texts he (hn.sublist hs)

theorem Kept.not_equals (hk : Kept inner data fields kept)
    (hv : ¬isDeclared (Field.names fields) v) : ∀ e ∈ kept, ¬e.1.equals v := by
  intro e he heq
  obtain ⟨name, hm, hname⟩ := isDeclared_iff.mp (hk.declared e he)
  rw [hname, Value.text_equals_iff] at heq
  exact hv (isDeclared_iff.mpr ⟨name, hm, heq⟩)

theorem Kept.get?_ne_none (hk : Kept inner data fields kept) :
    ∀ e ∈ kept, data.get? e.1 ≠ none := by
  induction hk with
  | nil => simp
  | others hk ih => exact ih
  | found hd hr hk ih => exact List.forall_mem_cons.mpr ⟨by simp [hd], ih⟩
  | absent hd hk ih => exact ih

/-- A field that is kept is found again, and one that is absent stays so. -/
theorem Kept.repeat (hk : Kept inner data fields kept)
    (hin : ∀ field ∈ fields, ∀ contract, field.contract? = some contract →
      inner.Repeats inner' contract)
    (hf : ∀ e ∈ kept, data'.get? e.1 = some e.2)
    (ha : ∀ name ∈ Field.names fields, data.get? (.text name) = none →
      data'.get? (.text name) = none) : Kept inner' data' fields kept := by
  induction hk with
  | nil => exact .nil
  | others hk ih => exact .others (ih (List.forall_mem_cons.mp hin).2 hf ha)
  | found hd hr hk ih =>
    obtain ⟨hin, hin'⟩ := List.forall_mem_cons.mp hin
    obtain ⟨hf, hf'⟩ := List.forall_mem_cons.mp hf
    exact .found hf (hin _ rfl _ _ hr) (ih hin' hf' (List.forall_mem_cons.mp ha).2)
  | absent hd hk ih =>
    obtain ⟨ha, ha'⟩ := List.forall_mem_cons.mp ha
    exact .absent (ha hd) (ih (List.forall_mem_cons.mp hin).2 hf ha')

theorem Kept.repeat_append {others : Entries} (hk : Kept inner data fields kept)
    (hn : (Field.names fields).Nodup)
    (hin : ∀ field ∈ fields, ∀ contract, field.contract? = some contract →
      inner.Repeats inner' contract)
    (ho : ∀ e ∈ others, ¬isDeclared (Field.names fields) e.1) :
    Kept inner' (kept ++ others) fields kept := by
  refine hk.repeat hin (fun e he => ?_) (fun name hm ha => ?_)
  · obtain ⟨k, v⟩ := e
    obtain ⟨name, _, rfl⟩ := isDeclared_iff.mp (hk.declared _ he)
    exact Entries.get?_append_of_isSome (Entries.get?_of_mem (hk.distinct hn) he) others
  · refine Entries.get?_eq_none.mpr fun e he heq => ?_
    rw [Value.equals_text_iff] at heq
    rcases List.mem_append.mp he with he | he
    · exact hk.get?_ne_none e he (heq ▸ ha)
    · exact ho e he (isDeclared_iff.mpr ⟨name, hm, heq⟩)

/-- The value of an undeclared key that is kept. -/
def Delegate.keep (inner : Delegate) (contract value : Value) : Except Failure Value :=
  if contract.isTrue then (inner.part value contract).map (·.value) else .ok value

def Keeps (inner : Delegate) (contract : Value) (entry entry' : Value × Value) : Prop :=
  entry'.1 = entry.1 ∧ inner.keep contract entry.2 = .ok entry'.2

theorem keepOthers_cons (inner : Delegate) (contract key value : Value) (output rest : Entries) :
    keepOthers inner contract output ((key, value) :: rest) = (do
      let kept ← inner.keep contract value
      keepOthers inner contract (output.put key kept) rest) := by
  rw [keepOthers, Delegate.keep]
  split
  · cases inner.part value contract <;> rfl
  · rfl

theorem keepOthers_eq_ok : keepOthers inner contract output others = .ok entries ↔
    ∃ kept, List.Forall₂ (Keeps inner contract) others kept ∧ entries = output.update kept := by
  induction others generalizing output with
  | nil => simp [keepOthers, Entries.update, eq_comm]
  | cons entry others ih =>
    obtain ⟨key, value⟩ := entry
    rw [keepOthers_cons, bind_eq_ok]
    simp only [ih, List.forall₂_cons_left_iff]
    constructor
    · rintro ⟨v, hv, kept, hk, rfl⟩
      exact ⟨(key, v) :: kept, ⟨(key, v), kept, ⟨rfl, hv⟩, hk, rfl⟩, rfl⟩
    · rintro ⟨_, ⟨⟨_, v⟩, kept, ⟨rfl, hv⟩, hk, rfl⟩, rfl⟩
      exact ⟨v, hv, kept, hk, rfl⟩

theorem Delegate.keep_repeat (hin : contract = .null ∨ inner.Repeats inner' contract)
    (h : inner.keep contract v = .ok w) : inner'.keep contract w = .ok w := by
  unfold keep at h ⊢
  split at h
  · rename_i ht
    rw [if_pos ht]
    rcases hin with rfl | hin
    · cases ht
    · cases hr : inner.part v contract with
      | error f =>
        rw [hr] at h
        cases h
      | ok result =>
        rw [hr] at h
        cases h
        rw [hin v result hr]
        rfl
  · rename_i ht
    rw [if_neg ht]

/-- The contract of the undeclared keys is null, or it is given by a field. -/
theorem Field.wildcard_eq_some (h : fields.foldl wildcard known = some contract) :
    contract = .null ∨ known = some contract ∨
      ∃ field ∈ fields, field.contract? = some contract := by
  induction fields generalizing known with
  | nil => exact .inr (.inl h)
  | cons field fields ih =>
    rcases ih h with hn | hk | ⟨field', hm, hc⟩
    · exact .inl hn
    · cases field with
      | named name mandatory c => exact .inr (.inl hk)
      | others c =>
        cases c with
        | some c => exact .inr (.inr ⟨.others (some c), by simp, hk⟩)
        | none =>
          cases known with
          | none => exact .inl (Option.some.inj hk).symm
          | some k => exact .inr (.inl hk)
    · exact .inr (.inr ⟨field', List.mem_cons_of_mem field hm, hc⟩)

theorem Field.keep_repeat (hin : ∀ field ∈ fields, ∀ contract, field.contract? = some contract →
      inner.Repeats inner' contract)
    (hw : fields.foldl wildcard none = some contract) (h : inner.keep contract v = .ok w) :
    inner'.keep contract w = .ok w := by
  rcases wildcard_eq_some hw with hn | hk | ⟨field, hm, hc⟩
  · exact Delegate.keep_repeat (.inl hn) h
  · cases hk
  · exact Delegate.keep_repeat (.inr (hin field hm contract hc)) h

theorem exists_of_mem_right {R : α → β → Prop} (h : List.Forall₂ R as bs) (hb : b ∈ bs) :
    ∃ a ∈ as, R a b := by
  induction h with
  | nil => cases hb
  | @cons a _ _ _ hr _ ih =>
    rcases List.mem_cons.mp hb with rfl | hb
    · exact ⟨a, by simp, hr⟩
    · obtain ⟨a', ha, hr⟩ := ih hb
      exact ⟨a', List.mem_cons_of_mem a ha, hr⟩

/-- The entries of data that no field declares. -/
def undeclared (fields : List Field) (data : Entries) : Entries :=
  data.filter fun e => !isDeclared (Field.names fields) e.1

/-- What is kept of the entries of a record, and of the undeclared ones among them. -/
theorem assoc_map_eq_ok (h : assoc inner mode params (.map data) = .ok r) :
    ∃ keys fields kept others, recordKeys params = .ok keys ∧
      List.Forall₂ Field.Reads keys fields ∧ Kept inner data fields kept ∧
      (match fields.foldl Field.wildcard none with
        | none => others = [] ∧ (mode.strict → undeclared fields data = [])
        | some contract =>
          List.Forall₂ (Keeps inner contract) (undeclared fields data) others) ∧
      r = ⟨.map (Entries.update (Entries.update [] kept) others),
        .map (Entries.update (Entries.update [] kept) others)⟩ := by
  unfold assoc at h
  obtain ⟨keys, hkeys, h⟩ := bind_eq_ok.mp h
  obtain ⟨reading, hr, h⟩ := bind_eq_ok.mp h
  obtain ⟨fields, kept, hf, hk, rfl⟩ := readFields_eq_ok hr
  dsimp only [Reading.after] at h
  simp only [List.append_nil, isDeclared_reverse] at h
  rw [← undeclared] at h
  split at h
  · rename_i contract hw
    obtain ⟨output, ho, h⟩ := bind_eq_ok.mp h
    obtain ⟨others, hrest, rfl⟩ := keepOthers_eq_ok.mp (lift_eq_ok.mp ho)
    refine ⟨keys, fields, kept, others, lift_eq_ok.mp hkeys, hf, hk, ?_, accept_eq_ok.mp h⟩
    rwa [hw]
  · rename_i hw
    split at h
    · obtain ⟨_, _, h⟩ := bind_eq_ok.mp h
      cases h
    · rename_i hstrict
      refine ⟨keys, fields, kept, [], lift_eq_ok.mp hkeys, hf, hk, ?_, accept_eq_ok.mp h⟩
      rw [hw]
      refine ⟨rfl, fun hs => ?_⟩
      simpa [hs] using hstrict

/-- What is kept of a record, and of its undeclared keys if there is a contract for them. -/
theorem assoc_eq_ok (h : assoc inner mode params value = .ok r) :
    ∃ keys entries fields kept others, recordKeys params = .ok keys ∧
      List.Forall₂ Field.Reads keys fields ∧ Kept inner entries fields kept ∧
      (∀ e ∈ others, ¬isDeclared (Field.names fields) e.1) ∧
      (match fields.foldl Field.wildcard none with
        | none => others = []
        | some contract => ∀ e ∈ others, ∃ e', Keeps inner contract e' e) ∧
      r = ⟨.map (Entries.update (Entries.update [] kept) others),
        .map (Entries.update (Entries.update [] kept) others)⟩ := by
  cases value with
  | map entries =>
    obtain ⟨keys, fields, kept, others, hkeys, hf, hk, hw, hr⟩ := assoc_map_eq_ok h
    cases hc : fields.foldl Field.wildcard none with
    | none =>
      rw [hc] at hw
      refine ⟨keys, entries, fields, kept, others, hkeys, hf, hk, ?_, ?_, hr⟩
      · rw [hw.1]
        simp
      · rw [hc]
        exact hw.1
    | some contract =>
      rw [hc] at hw
      have hsource : ∀ e ∈ others, ∃ e' ∈ undeclared fields entries, Keeps inner contract e' e :=
        fun _ he => exists_of_mem_right hw he
      refine ⟨keys, entries, fields, kept, others, hkeys, hf, hk, fun e he => ?_, ?_, hr⟩
      · obtain ⟨e', he', hkey, _⟩ := hsource e he
        rw [hkey]
        simpa using (List.mem_filter.mp he').2
      · rw [hc]
        intro e he
        obtain ⟨e', _, hk⟩ := hsource e he
        exact ⟨e', hk⟩
  | _ =>
    obtain ⟨_, _, h⟩ := bind_eq_ok.mp h
    cases h

/-- A record that has just what is kept of it is kept as it is. -/
theorem assoc_of_kept {others : Entries} (hkeys : recordKeys params = .ok keys)
    (hf : List.Forall₂ Field.Reads keys fields) (hk : Kept inner (kept ++ others) fields kept)
    (hd : (kept ++ others).Distinct) (ho : ∀ e ∈ others, ¬isDeclared (Field.names fields) e.1)
    (hw : match fields.foldl Field.wildcard none with
      | none => others = []
      | some contract => ∀ e ∈ others, Keeps inner contract e e) :
    assoc inner mode params (.map (kept ++ others)) = accept (.map (kept ++ others)) := by
  have hkept : Entries.update [] kept = kept := Entries.update_nil (List.pairwise_append.mp hd).1
  have hothers : (kept ++ others).filter (fun e => !isDeclared (Field.names fields).reverse e.1) =
      others := by
    simp only [isDeclared_reverse]
    rw [List.filter_append, List.filter_eq_nil_iff.mpr, List.filter_eq_self.mpr, List.nil_append]
    · intro e he
      simpa using ho e he
    · intro e he
      simp [hk.declared e he]
  unfold assoc
  rw [hkeys]
  dsimp only [lift_ok, bind, Except.bind]
  rw [hk.readFields hf]
  dsimp only [Reading.after]
  rw [List.append_nil, hothers, hkept]
  split
  · rename_i contract hc
    rw [hc] at hw
    have hkeep : keepOthers inner contract kept others = .ok (kept ++ others) :=
      keepOthers_eq_ok.mpr ⟨others, List.forall₂_same.mpr hw, (Entries.update_of_distinct hd).symm⟩
    rw [hkeep]
    rfl
  · rename_i hc
    rw [hc] at hw
    dsimp only at hw
    rw [hw, List.append_nil]
    simp

/-- A record whose parts are let through again is let through as it is. -/
theorem assoc_repeat
    (hf : ∀ keys, recordKeys params = .ok keys → List.Forall₂ Field.Reads keys fields)
    (hn : (Field.names fields).Nodup)
    (hin : ∀ field ∈ fields, ∀ contract, field.contract? = some contract →
      inner.Repeats inner' contract)
    (h : assoc inner mode params value = .ok r) :
    ∃ v, r = ⟨v, v⟩ ∧ assoc inner' mode' params v = accept v := by
  obtain ⟨keys, entries, fields', kept, others, hk, hf', hkept, ho, hw, rfl⟩ := assoc_eq_ok h
  have hf := hf keys hk
  have hunique : Relator.RightUnique Field.Reads := fun _ _ _ hb hc =>
    Except.ok.inj (hb.symm.trans hc)
  cases List.right_unique_forall₂' hunique hf hf'
  have hd : kept.Distinct := hkept.distinct hn
  have hsame : Entries.update [] kept = kept := Entries.update_nil hd
  have hsplit : Entries.update kept others = kept ++ Entries.update [] others := by
    have h := Entries.update_append (fun a ha b hb => hkept.not_equals (ho b hb) a ha) []
    rwa [List.append_nil] at h
  have hrest : ∀ e ∈ Entries.update [] others, ¬isDeclared (Field.names fields) e.1 ∧
      ∀ contract, fields.foldl Field.wildcard none = some contract →
        inner'.keep contract e.2 = .ok e.2 := by
    refine Entries.update_forall (P := fun v => ¬isDeclared (Field.names fields) v)
      (Q := fun v => ∀ contract, fields.foldl Field.wildcard none = some contract →
        inner'.keep contract v = .ok v) (by simp) fun e he => ⟨ho e he, fun contract hc => ?_⟩
    rw [hc] at hw
    obtain ⟨e', _, he'⟩ := hw e he
    exact Field.keep_repeat hin hc he'
  refine ⟨_, rfl, ?_⟩
  rw [hsame, hsplit]
  have ho' : ∀ e ∈ Entries.update [] others, ¬isDeclared (Field.names fields) e.1 :=
    fun e he => (hrest e he).1
  have hdistinct : (kept ++ Entries.update [] others).Distinct :=
    List.pairwise_append.mpr ⟨hd, Entries.Distinct.update .nil others,
      fun a ha b hb => hkept.not_equals (ho' b hb) a ha⟩
  apply assoc_of_kept hk hf (hkept.repeat_append hn hin ho') hdistinct ho'
  cases hc : fields.foldl Field.wildcard none with
  | none =>
    rw [hc] at hw
    rw [show others = [] from hw]
    rfl
  | some contract =>
    intro e he
    exact ⟨rfl, (hrest e he).2 contract hc⟩

end Covenant.Check
