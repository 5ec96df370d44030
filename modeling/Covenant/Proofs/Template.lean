import Covenant.Proofs.Contract.Params
import Covenant.Registry

/-! What a template becomes under the parameters of a contract that names it. -/

namespace Covenant.Template

variable {template params : Params}

/-- A template with a type is expanded to itself, with what is added put in. -/
theorem expand_toEntries (h : Named.get? template "type" = some v) (params : Params)
    (inline : Bool) :
    expand ⟨template.toEntries, inline⟩ params =
      .ok (Params.toValue (template.update (additions params))) := by
  have hsome : (template.toEntries.get? (.text "type")).isSome := by
    rw [Params.get?_toEntries, h]
    rfl
  rw [expand, if_pos hsome, Params.update_toEntries]
  rfl

theorem additions_of_notMem (hp : "type" ∉ params.map (·.1)) :
    additions params = List.filter (fun p => p.1 != "strict" && !p.2.isNull) params := by
  rw [additions]
  refine List.filter_congr fun p hm => ?_
  have hne : p.1 ≠ "type" := fun he => hp (he ▸ List.mem_map_of_mem hm)
  rw [bne_iff_ne.mpr hne, Bool.true_and]

theorem get?_additions (hc : params.Canonical) (name : String) :
    (additions params).get? name =
      (Named.get? params name).filter fun v => name != "type" && name != "strict" && !v.isNull :=
  Named.get?_filter hc.nodup _ name

theorem get?_update_additions (hc : params.Canonical) (template : Params) (name : String) :
    Named.get? (template.update (additions params)) name =
      ((additions params).get? name).or (Named.get? template name) := by
  have hd : ((additions params).map (·.1)).Nodup := (hc.filter _).nodup
  exact Named.get?_update hd template name

/-- The type of a template stays. -/
theorem get?_type_update_additions (hc : params.Canonical) (template : Params) :
    Named.get? (template.update (additions params)) "type" = Named.get? template "type" := by
  have ha : (additions params).get? "type" = none := by
    rw [get?_additions hc]
    cases Named.get? params "type" <;> rfl
  rw [get?_update_additions hc, ha, Option.none_or]

/-- What a template leaves open is as the contract says. -/
theorem get_update_additions (hc : params.Canonical) (hn : Named.get? template name = none)
    (ht : name ≠ "type") (hs : name ≠ "strict") :
    Params.get (template.update (additions params)) name = params.get name := by
  have ht : (name != "type") = true := bne_iff_ne.mpr ht
  have hs : (name != "strict") = true := bne_iff_ne.mpr hs
  rw [Params.get, get?_update_additions hc, hn, Option.or_none, get?_additions hc]
  simp only [ht, hs, Bool.true_and]
  rw [Params.get]
  cases Named.get? params name with
  | none => rfl
  | some v => cases v <;> rfl

theorem canonical_update (h : template.Canonical) (hc : params.Canonical) :
    Params.Canonical (template.update (additions params)) :=
  h.update (hc.filter _).names

/-- What is added has names, and it is no type. -/
theorem names_additions (params : Params) :
    ∀ e ∈ (additions params).toEntries, ∃ name, e.1 = .text name ∧ name ≠ "type" := by
  intro e he
  obtain ⟨p, hp, rfl⟩ := List.mem_map.mp he
  have hk := (List.mem_filter.mp hp).2
  simp only [Bool.and_eq_true, bne_iff_ne] at hk
  exact ⟨p.1, rfl, hk.1.1⟩

/-- The entries that give a type stay as they are, however a template is written. -/
theorem filter_type_update (contract : Entries) (params : Params) :
    List.filter (·.1.equals (.text "type")) (contract.update (additions params).toEntries) =
      List.filter (·.1.equals (.text "type")) contract := by
  refine Entries.filter_update _ fun e he => ?_
  obtain ⟨name, hname, hne⟩ := names_additions params e he
  rw [hname]
  exact fun heq => hne (Value.text.inj heq)

theorem get?_type_update (contract : Entries) (params : Params) :
    Entries.get? (contract.update (additions params).toEntries) (.text "type") =
      contract.get? (.text "type") := by
  rw [Entries.get?_eq_head?_filter, filter_type_update, ← Entries.get?_eq_head?_filter]

/-- The contract that a template stands for can be read if the template can, with its type. -/
theorem exists_ofEntries_update {contract : Entries}
    (h : Params.ofEntries contract = .ok template) (params : Params) :
    ∃ merged, Params.ofEntries (contract.update (additions params).toEntries) = .ok merged ∧
      Params.get merged "type" = template.get "type" := by
  have hnames := Params.exists_ofEntries_iff.mp ⟨template, h⟩
  have hall := Entries.update_forall (P := fun key => ∃ name, key = .text name)
    (Q := fun _ => True) (fun e he => ⟨hnames e he, trivial⟩)
    fun e he => ⟨(names_additions params e he).imp fun _ hname => hname.1, trivial⟩
  obtain ⟨merged, hm⟩ := Params.exists_ofEntries_iff.mpr fun e he => (hall e he).1
  refine ⟨merged, hm, ?_⟩
  rw [Params.get, Params.get, Params.get?_type_of_ofEntries h, Params.get?_type_of_ofEntries hm,
    filter_type_update]

end Covenant.Template
