import Covenant.Proofs.Check.Default
import Covenant.Proofs.Check.Record
import Covenant.Proofs.Filter.Step
import Covenant.Proofs.Value.Equality

/-! Which keys a record has, in which order, and with which values: it loses no key of its data and
gets no new one. -/

namespace Covenant

namespace Entries

theorem get?_isSome : (get? entries (.text s)).isSome ↔ .text s ∈ entries.map (·.1) := by
  rw [Option.isSome_iff_ne_none, ne_eq, get?_eq_none]
  simp only [Value.equals_text_iff, not_forall, not_not, List.mem_map, exists_prop]

end Entries

namespace Check

variable {inner : Delegate} {mode : Mode} {params : Params} {fields : List Field}
  {data kept others out : Entries}

/-- The fields of a record. -/
def recordFields (params : Params) : Except Failure (List Field) := do
  (← recordKeys params).mapM fun e => Field.ofEntry e.1 e.2

theorem recordFields_of_reads (hk : recordKeys params = .ok keys)
    (hf : List.Forall₂ Field.Reads keys fields) : recordFields params = .ok fields := by
  rw [recordFields, hk]
  show keys.mapM (fun e => Field.ofEntry e.1 e.2) = .ok fields
  clear hk
  induction hf with
  | nil => rfl
  | cons hr _ ih =>
    rw [List.mapM_cons, show Field.ofEntry _ _ = _ from hr, ih]
    rfl

/-- The declared names that data has. -/
def present (fields : List Field) (data : Entries) : List String :=
  (Field.names fields).filter fun name => (data.get? (.text name)).isSome

theorem present_named (name : String) (m : Bool) (contract : Value) (fields : List Field)
    (data : Entries) : present (.named name m contract :: fields) data =
      (name :: Field.names fields).filter fun name => (data.get? (.text name)).isSome := rfl

theorem Kept.keys (hk : Kept inner data fields kept) :
    kept.map (·.1) = (present fields data).map Value.text := by
  induction hk with
  | nil => rfl
  | others _ ih => exact ih
  | found hd _ _ ih =>
    rw [present_named, List.filter_cons_of_pos (by simp [hd])]
    exact congrArg (_ :: ·) ih
  | absent hd _ ih =>
    rw [present_named, List.filter_cons_of_neg (by simp [hd])]
    exact ih

theorem Kept.mandatory (hk : Kept inner data fields kept)
    (hm : .named name true contract ∈ fields) : (data.get? (.text name)).isSome := by
  induction hk with
  | nil => cases hm
  | others _ ih => exact ih (List.mem_of_ne_of_mem (by simp) hm)
  | found hd _ _ ih =>
    rcases List.mem_cons.mp hm with he | hm
    · cases he
      exact Option.isSome_iff_exists.mpr ⟨_, hd⟩
    · exact ih hm
  | absent _ _ ih => exact ih (List.mem_of_ne_of_mem (by simp) hm)

theorem Kept.mem (hk : Kept inner data fields kept) (hm : .named name m contract ∈ fields)
    (hd : data.get? (.text name) = some v) :
    ∃ result, inner.part v contract = .ok result ∧ (.text name, result.value) ∈ kept := by
  induction hk with
  | nil => cases hm
  | others _ ih => exact ih (List.mem_of_ne_of_mem (by simp) hm)
  | found hd' hr _ ih =>
    rcases List.mem_cons.mp hm with he | hm
    · cases he
      cases hd.symm.trans hd'
      exact ⟨_, hr, by simp⟩
    · obtain ⟨result, hr, hmem⟩ := ih hm
      exact ⟨result, hr, List.mem_cons_of_mem _ hmem⟩
  | absent hd' _ ih =>
    rcases List.mem_cons.mp hm with he | hm
    · cases he
      cases hd.symm.trans hd'
    · exact ih hm

theorem not_declared_of_mem_undeclared (h : e ∈ undeclared fields data) :
    ¬isDeclared (Field.names fields) e.1 := by
  simpa using (List.mem_filter.mp h).2

/-- The declared keys that are there and the undeclared ones are all the keys of the data. -/
theorem present_append_undeclared (hn : (Field.names fields).Nodup) (hd : data.Distinct) :
    ((present fields data).map Value.text ++ (undeclared fields data).map (·.1)).Perm
      (data.map (·.1)) := by
  have hsplit : ((data.filter fun e => isDeclared (Field.names fields) e.1).map (·.1) ++
      (undeclared fields data).map (·.1)).Perm (data.map (·.1)) := by
    rw [← List.map_append]
    exact (List.filter_append_perm _ data).map _
  refine (List.Perm.append_right _ ?_).trans hsplit
  refine (List.perm_ext_iff_of_nodup ?_ ?_).mpr fun v => ?_
  · exact List.pairwise_map.mpr ((hn.filter _).imp fun hne he => hne (Value.text.inj he))
  · -- Declared keys are texts, which are equal only if they are the same.
    refine List.pairwise_map.mpr ((hd.sublist List.filter_sublist).imp_of_mem ?_)
    intro a b ha _ hab he
    obtain ⟨name, _, hname⟩ := isDeclared_iff.mp (List.mem_filter.mp ha).2
    rw [← he, hname] at hab
    exact hab (Value.equals_text_iff.mpr rfl)
  · simp only [present, List.mem_map, List.mem_filter, Entries.get?_isSome]
    constructor
    · rintro ⟨name, ⟨hm, e, he, hkey⟩, rfl⟩
      exact ⟨e, ⟨he, isDeclared_iff.mpr ⟨name, hm, hkey⟩⟩, hkey⟩
    · rintro ⟨e, ⟨he, hdecl⟩, rfl⟩
      obtain ⟨name, hm, hkey⟩ := isDeclared_iff.mp hdecl
      exact ⟨name, ⟨hm, e, he, hkey⟩, hkey.symm⟩

theorem keys_distinct (hn : (Field.names fields).Nodup) (hd : data.Distinct) :
    ((present fields data).map Value.text ++ (undeclared fields data).map (·.1)).Pairwise
      fun a b => ¬a.equals b := by
  refine List.pairwise_append.mpr ⟨?_, ?_, ?_⟩
  · refine List.pairwise_map.mpr ((hn.filter _).imp fun hne he => hne ?_)
    exact Value.text.inj (Value.equals_text_iff.mp he)
  · exact List.pairwise_map.mpr (hd.sublist List.filter_sublist)
  · intro a ha b hb he
    obtain ⟨name, hm, rfl⟩ := List.mem_map.mp ha
    obtain ⟨e, hmem, rfl⟩ := List.mem_map.mp hb
    refine not_declared_of_mem_undeclared hmem (isDeclared_iff.mpr ⟨name, ?_, ?_⟩)
    · exact (List.mem_filter.mp hm).1
    · exact Value.text_equals_iff.mp he

/-- What comes of data by the fields of a record. -/
structure RecordOf (inner : Delegate) (strict : Bool) (fields : List Field)
    (data out : Entries) : Prop where
  /-- Declared keys come first, as they are declared, then the others, as they are in the data. -/
  keys : out.map (·.1) = (present fields data).map Value.text ++
    if (fields.foldl Field.wildcard none).isSome then (undeclared fields data).map (·.1) else []
  distinct : out.Distinct
  all : strict = true ∨ (fields.foldl Field.wildcard none).isSome →
    (out.map (·.1)).Perm (data.map (·.1))
  mandatory : ∀ name contract, .named name true contract ∈ fields →
    (data.get? (.text name)).isSome
  declared : ∀ name mandatory contract v, .named name mandatory contract ∈ fields →
    data.get? (.text name) = some v →
      ∃ result, inner.part v contract = .ok result ∧ out.get? (.text name) = some result.value
  others : ∀ contract, fields.foldl Field.wildcard none = some contract →
    ∀ e ∈ undeclared fields data, ∃ v, inner.keep contract e.2 = .ok v ∧ (e.1, v) ∈ out

theorem keys_of_keeps (h : List.Forall₂ (Keeps inner contract) others kept) :
    kept.map (·.1) = others.map (·.1) := by
  induction h with
  | nil => rfl
  | cons hk _ ih => rw [List.map_cons, List.map_cons, hk.1, ih]

theorem exists_of_mem_left {R : α → β → Prop} (h : List.Forall₂ R as bs) (ha : a ∈ as) :
    ∃ b ∈ bs, R a b :=
  exists_of_mem_right h.flip ha

/-- What is kept for the declared keys and what is kept for the others make up the record. -/
theorem RecordOf.of_kept (hk : Kept inner data fields kept) (hn : (Field.names fields).Nodup)
    (hd : data.Distinct)
    (hw : match fields.foldl Field.wildcard none with
      | none => others = [] ∧ (strict = true → undeclared fields data = [])
      | some contract => List.Forall₂ (Keeps inner contract) (undeclared fields data) others) :
    RecordOf inner strict fields data (kept ++ others) := by
  have hkeys : (kept ++ others).map (·.1) = (present fields data).map Value.text ++
      if (fields.foldl Field.wildcard none).isSome then (undeclared fields data).map (·.1)
      else [] := by
    rw [List.map_append, hk.keys]
    cases hc : fields.foldl Field.wildcard none with
    | none =>
      rw [hc] at hw
      rw [hw.1]
      rfl
    | some contract =>
      rw [hc] at hw
      rw [keys_of_keeps hw]
      rfl
  have hpairs : ((kept ++ others).map (·.1)).Pairwise fun a b => ¬a.equals b := by
    rw [hkeys]
    refine (keys_distinct hn hd).sublist (List.Sublist.append_left ?_ _)
    split
    · exact List.Sublist.refl _
    · exact List.nil_sublist _
  have hdistinct : (kept ++ others).Distinct := List.pairwise_map.mp hpairs
  refine ⟨hkeys, hdistinct, fun hall => ?_, fun _ _ => hk.mandatory, fun _ _ _ _ hm hv => ?_,
    fun contract hc e he => ?_⟩
  · have hperm := present_append_undeclared hn hd
    rw [hkeys]
    cases hc : fields.foldl Field.wildcard none with
    | none =>
      rw [hc] at hall hw
      rwa [hw.2 (hall.resolve_right (by simp))] at hperm
    | some contract => exact hperm
  · obtain ⟨result, hr, hmem⟩ := hk.mem hm hv
    exact ⟨result, hr, Entries.get?_of_mem hdistinct (List.mem_append_left _ hmem)⟩
  · rw [hc] at hw
    obtain ⟨e', he', hkey, hv⟩ := exists_of_mem_left hw he
    exact ⟨e'.2, hv, hkey ▸ List.mem_append_right _ he'⟩

/-- A record is made of its data by its fields, whose names are not declared twice. -/
theorem assoc_recordOf
    (hn : ∀ fields, recordFields params = .ok fields → (Field.names fields).Nodup)
    (hd : data.Distinct) (h : assoc inner mode params (.map data) = .ok r) :
    ∃ fields out, recordFields params = .ok fields ∧ r = ⟨.map out, .map out⟩ ∧
      RecordOf inner mode.strict fields data out := by
  obtain ⟨keys, fields, kept, others, hkeys, hf, hk, hw, hr⟩ := assoc_map_eq_ok h
  have hfields := recordFields_of_reads hkeys hf
  have hrecord := RecordOf.of_kept hk (hn fields hfields) hd hw
  have hout : Entries.update (Entries.update [] kept) others = kept ++ others := by
    rw [Entries.update_nil (hk.distinct (hn fields hfields)),
      Entries.update_of_distinct hrecord.distinct]
  exact ⟨fields, kept ++ others, hfields, hout ▸ hr, hrecord⟩

end Check
end Covenant

namespace Covenant.Filter

open Check (Field RecordOf recordFields)

/-- What comes of data by a record without a default, whose parts are filtered a level deeper in the
mode of the record. -/
theorem validate_record {f : Filter} {data : Entries}
    (hc : Node.ofContract false contract = .ok (some node)) (hm : node.members = [token])
    (hk : f.registry.kind token = .ok .assoc) (hdefault : node.params.get "default" = .null)
    (hn : ∀ fields, recordFields node.params = .ok fields → (Field.names fields).Nodup)
    (hd : data.Distinct) (h : f.validate (.map data) contract s = .ok r) :
    ∃ strict fields out, node.strict (s.getD f.config.strict) = .ok strict ∧
      recordFields node.params = .ok fields ∧ r = ⟨.map out, .map out⟩ ∧
      RecordOf (delegate f.registry (run f.registry f.config.maxDepth f.config.maxDepth)
        ⟨strict, node.inline⟩) strict fields data out := by
  obtain ⟨strict, hs⟩ : ∃ strict, node.strict (s.getD f.config.strict) = .ok strict := by
    obtain ⟨_, hnode, h⟩ := bind_eq_ok.mp h
    cases hc.symm.trans hnode
    obtain ⟨strict, hs, _⟩ := bind_eq_ok.mp h
    exact ⟨strict, hs⟩
  rw [validate_kind hc hm hk hs (by simp), Kind.validate_without_default hdefault,
    Check.settle_eq_ok] at h
  obtain ⟨fields, out, hfields, hr, hrecord⟩ := Check.assoc_recordOf hn hd h
  exact ⟨strict, fields, out, hs, hfields, hr, hrecord⟩

/-- A parcel has a weight and may have a note; what else is said of it is yes or no. -/
def parcelKeys : Value :=
  .map [(.text "...", .text "bool"), (.text "note?", .text "string"), (.text "weight", .text "int")]

def parcelData : Entries :=
  [(.text "fragile", .text "no"), (.text "weight", .text "12"), (.int 1, .int 7)]

def parcelOut : Entries :=
  [(.text "weight", .int 12), (.text "fragile", .bool false), (.int 1, .bool true)]

theorem validate_parcel_keys :
    initial.validate (.map parcelData) parcelKeys none = .ok ⟨.map parcelOut, .map parcelOut⟩ ∧
      (parcelOut.map (·.1)).Perm (parcelData.map (·.1)) := by
  have h : initial.validate (.map parcelData) parcelKeys none =
      .ok ⟨.map parcelOut, .map parcelOut⟩ := by rfl
  obtain ⟨strict, fields, out, hs, hf, hr, hrecord⟩ :=
    @validate_record parcelKeys _ "assoc" none _ initial parcelData rfl rfl rfl rfl
      (fun fields hf => by
        cases hf
        decide) (by decide) h
  cases hr
  cases hf
  exact ⟨h, hrecord.all (.inr rfl)⟩

end Covenant.Filter
