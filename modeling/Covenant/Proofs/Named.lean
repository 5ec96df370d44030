import Covenant.Contract.Params

namespace Covenant.Named

theorem get?_cons_self (name : String) (a : α) (table : Named α) :
    get? ((name, a) :: table) name = some a := by
  simp [get?]

theorem get?_cons_ne (h : n ≠ name) (a : α) (table : Named α) :
    get? ((n, a) :: table) name = table.get? name := by
  simp [get?, h]

theorem get?_put_self (table : Named α) (name : String) (a : α) :
    (table.put name a).get? name = some a := by
  induction table with
  | nil => exact get?_cons_self name a []
  | cons e rest ih =>
    obtain ⟨n, b⟩ := e
    by_cases hn : n = name
    · rw [put, if_pos hn, hn]
      exact get?_cons_self name a rest
    · rw [put, if_neg hn, get?_cons_ne hn]
      exact ih

theorem get?_put_ne (h : n ≠ name) (table : Named α) (a : α) :
    (table.put n a).get? name = table.get? name := by
  induction table with
  | nil => exact get?_cons_ne h a []
  | cons e rest ih =>
    obtain ⟨m, b⟩ := e
    by_cases hm : m = n
    · rw [put, if_pos hm, hm, get?_cons_ne h, get?_cons_ne h]
    · rw [put, if_neg hm]
      by_cases hmn : m = name
      · rw [hmn, get?_cons_self, get?_cons_self]
      · rw [get?_cons_ne hmn, get?_cons_ne hmn]
        exact ih

theorem mem_of_get? {table : Named α} (h : table.get? name = some a) : (name, a) ∈ table := by
  rw [get?, Option.map_eq_some_iff] at h
  obtain ⟨e, he, rfl⟩ := h
  have hn := List.find?_some he
  rw [beq_iff_eq] at hn
  exact hn ▸ List.mem_of_find?_eq_some he

theorem get?_append (s t : Named α) (name : String) :
    get? (s ++ t) name = (s.get? name).or (t.get? name) := by
  rw [get?, List.find?_append, get?, get?]
  cases List.find? (·.1 == name) s with
  | none => rfl
  | some e => rfl

theorem get?_map (f : α → β) (t : Named α) (name : String) :
    get? (List.map (fun e => (e.1, f e.2)) t) name = (t.get? name).map f := by
  rw [get?, get?, List.find?_map, Option.map_map, Option.map_map]
  rfl

theorem put_cons_ne (h : n ≠ name) (b : α) (table : Named α) (a : α) :
    put ((n, b) :: table) name a = (n, b) :: table.put name a := by
  rw [put, if_neg h]

theorem put_of_notMem {table : Named α} (h : name ∉ table.map (·.1)) (a : α) :
    table.put name a = table ++ [(name, a)] := by
  induction table with
  | nil => rfl
  | cons e table ih =>
    obtain ⟨n, b⟩ := e
    rw [List.map_cons, List.mem_cons, not_or] at h
    rw [put_cons_ne (Ne.symm h.1), ih h.2, List.cons_append]

/-- Names that are new are put in behind the others. -/
theorem update_of_nodup {s t : Named α} (h : ((s ++ t).map (·.1)).Nodup) :
    s.update t = s ++ t := by
  induction t generalizing s with
  | nil => exact (List.append_nil s).symm
  | cons e t ih =>
    have hp : s.put e.1 e.2 = s ++ [e] := by
      refine put_of_notMem (fun hm => ?_) e.2
      rw [List.map_append, List.map_cons] at h
      exact (List.nodup_append.mp h).2.2 e.1 hm e.1 (by simp) rfl
    rw [List.append_cons] at h ⊢
    rw [update, List.foldl_cons, hp]
    exact ih h

theorem get?_eq_none_iff {table : Named α} :
    table.get? name = none ↔ name ∉ table.map (·.1) := by
  rw [get?, Option.map_eq_none_iff, List.find?_eq_none, List.mem_map]
  constructor
  · rintro h ⟨e, he, rfl⟩
    exact h e he (beq_self_eq_true e.1)
  · intro h e he hn
    exact h ⟨e, he, beq_iff_eq.mp hn⟩

theorem put_of_get? {table : Named α} (h : table.get? name = some a) :
    table.put name a = table := by
  induction table with
  | nil => cases h
  | cons e table ih =>
    obtain ⟨n, b⟩ := e
    by_cases hn : n = name
    · subst hn
      rw [get?_cons_self] at h
      rw [put, if_pos rfl, Option.some.inj h]
    · rw [get?_cons_ne hn] at h
      rw [put_cons_ne hn, ih h]

theorem mem_put {table : Named α} (h : e ∈ table.put name a) : e = (name, a) ∨ e ∈ table := by
  induction table with
  | nil => exact .inl (List.mem_singleton.mp h)
  | cons e' table ih =>
    obtain ⟨n, b⟩ := e'
    rw [put] at h
    split at h
    · rename_i hn
      rw [hn] at h
      exact (List.mem_cons.mp h).imp_right (List.mem_cons_of_mem _)
    · rcases List.mem_cons.mp h with rfl | h
      · exact .inr (by simp)
      · exact (ih h).imp_right (List.mem_cons_of_mem _)

theorem map_fst_put (table : Named α) (name : String) (a : α) :
    (table.put name a).map (·.1) =
      if name ∈ table.map (·.1) then table.map (·.1) else table.map (·.1) ++ [name] := by
  by_cases h : name ∈ table.map (·.1)
  · rw [if_pos h]
    induction table with
    | nil => cases h
    | cons e table ih =>
      obtain ⟨n, b⟩ := e
      by_cases hn : n = name
      · rw [put, if_pos hn]
        rfl
      · rw [put_cons_ne hn, List.map_cons, List.map_cons,
          ih ((List.mem_cons.mp h).resolve_left (Ne.symm hn))]
  · rw [if_neg h, put_of_notMem h, List.map_append]
    rfl

theorem nodup_put {table : Named α} (h : (table.map (·.1)).Nodup) (name : String) (a : α) :
    ((table.put name a).map (·.1)).Nodup := by
  rw [map_fst_put]
  split
  · exact h
  · rename_i hn
    refine List.nodup_append.mpr ⟨h, List.pairwise_singleton _ _, fun n hm n' hn' he => ?_⟩
    rw [List.mem_singleton.mp hn'] at he
    exact hn (he ▸ hm)

theorem put_put (table : Named α) (name : String) (a b : α) :
    (table.put name a).put name b = table.put name b := by
  induction table with
  | nil => exact if_pos rfl
  | cons e table ih =>
    obtain ⟨n, c⟩ := e
    by_cases hn : n = name
    · rw [put, if_pos hn, put, if_pos hn, put, if_pos hn]
    · rw [put_cons_ne hn, put_cons_ne hn, put_cons_ne hn, ih]

/-- A name that has its place keeps it, whatever else is put in before. -/
theorem put_comm_of_mem {table : Named α} (hm : name ∈ table.map (·.1)) (hn : n ≠ name)
    (a b : α) : (table.put n a).put name b = (table.put name b).put n a := by
  induction table with
  | nil => cases hm
  | cons e table ih =>
    obtain ⟨k, c⟩ := e
    by_cases hk : k = name
    · subst hk
      rw [put_cons_ne hn.symm, put, if_pos rfl, put, if_pos rfl, put_cons_ne hn.symm]
    · have ih := ih ((List.mem_cons.mp hm).resolve_left (Ne.symm hk))
      by_cases hkn : k = n
      · subst hkn
        rw [put, if_pos rfl, put_cons_ne hk, put_cons_ne hk, put, if_pos rfl]
      · rw [put_cons_ne hkn, put_cons_ne hk, put_cons_ne hk, put_cons_ne hkn, ih]

theorem mem_put_self (table : Named α) (name : String) (a : α) :
    name ∈ (table.put name a).map (·.1) := by
  rw [map_fst_put]
  split
  · assumption
  · simp

theorem update_put_comm {table other : Named α} (hm : name ∈ table.map (·.1))
    (hn : name ∉ other.map (·.1)) (a : α) :
    (table.update other).put name a = (table.put name a).update other := by
  induction other generalizing table with
  | nil => rfl
  | cons e other ih =>
    obtain ⟨n, b⟩ := e
    rw [List.map_cons, List.mem_cons, not_or] at hn
    have hm' : name ∈ (table.put n b).map (·.1) := by
      rw [map_fst_put]
      split
      · exact hm
      · exact List.mem_append_left _ hm
    rw [update, update, List.foldl_cons, List.foldl_cons,
      ← put_comm_of_mem hm (Ne.symm hn.1)]
    exact ih hm' hn.2

/-- What is put into the second table is put in last. -/
theorem update_put {other : Named α} (h : (other.map (·.1)).Nodup) (table : Named α)
    (name : String) (a : α) :
    table.update (other.put name a) = (table.update other).put name a := by
  induction other generalizing table with
  | nil => rfl
  | cons e other ih =>
    obtain ⟨n, b⟩ := e
    obtain ⟨hm, h⟩ := List.nodup_cons.mp h
    by_cases hn : n = name
    · subst hn
      rw [put, if_pos rfl, update, update, List.foldl_cons, List.foldl_cons]
      refine Eq.trans ?_ (update_put_comm (mem_put_self table n b) hm a).symm
      rw [put_put]
      rfl
    · rw [put_cons_ne hn]
      exact ih h (table.put n b)

/-- The names that are put in come behind the others, unless they are among them. -/
theorem map_fst_update {other : Named α} (h : (other.map (·.1)).Nodup) (table : Named α) :
    (table.update other).map (·.1) =
      table.map (·.1) ++ (other.map (·.1)).filter (· ∉ table.map (·.1)) := by
  induction other generalizing table with
  | nil => exact (List.append_nil _).symm
  | cons e other ih =>
    rw [List.map_cons, List.nodup_cons] at h
    obtain ⟨he, h⟩ := h
    show ((table.put e.1 e.2).update other).map (·.1) = _
    rw [ih h, map_fst_put]
    by_cases hm : e.1 ∈ table.map (·.1)
    · rw [if_pos hm, List.map_cons, List.filter_cons_of_neg (by simpa using hm)]
    · have hrest : (other.map (·.1)).filter (· ∉ table.map (·.1) ++ [e.1]) =
          (other.map (·.1)).filter (· ∉ table.map (·.1)) := by
        refine List.filter_congr fun n hn => ?_
        have hne : n ≠ e.1 := fun heq => he (heq ▸ hn)
        simp [hne]
      rw [if_neg hm, List.map_cons, List.filter_cons_of_pos (by simpa using hm), hrest,
        List.append_assoc, List.singleton_append]

/-- What a name stands for in the second table counts. -/
theorem get?_update {t : Named α} (h : (t.map (·.1)).Nodup) (s : Named α) (name : String) :
    (s.update t).get? name = (t.get? name).or (s.get? name) := by
  induction t generalizing s with
  | nil => rfl
  | cons e t ih =>
    obtain ⟨n, a⟩ := e
    obtain ⟨hn, h⟩ := List.nodup_cons.mp h
    rw [update, List.foldl_cons]
    refine (ih h (s.put n a)).trans ?_
    by_cases he : n = name
    · subst he
      rw [get?_eq_none_iff.mpr hn, get?_put_self, get?_cons_self]
      rfl
    · rw [get?_put_ne he, get?_cons_ne he]

theorem get?_filter {table : Named α} (h : (table.map (·.1)).Nodup) (keep : String × α → Bool)
    (name : String) :
    get? (List.filter keep table) name = (table.get? name).filter fun a => keep (name, a) := by
  induction table with
  | nil => rfl
  | cons e table ih =>
    obtain ⟨n, a⟩ := e
    obtain ⟨hn, h⟩ := List.nodup_cons.mp h
    by_cases he : n = name
    · subst he
      rw [get?_cons_self, Option.filter_some]
      by_cases hk : keep (n, a) = true
      · rw [List.filter_cons_of_pos hk, get?_cons_self, if_pos hk]
      · rw [List.filter_cons_of_neg hk, if_neg hk, ih h, get?_eq_none_iff.mpr hn]
        rfl
    · rw [get?_cons_ne he, ← ih h]
      by_cases hk : keep (n, a) = true
      · rw [List.filter_cons_of_pos hk, get?_cons_ne he]
      · rw [List.filter_cons_of_neg hk]

end Named

theorem Params.get_put_self (params : Params) (name : String) (v : Value) :
    Params.get (params.put name v) name = v := by
  rw [Params.get, Named.get?_put_self]
  rfl

theorem Params.get_cons_ne (h : n ≠ name) (params : Params) (v : Value) :
    Params.get ((n, v) :: params) name = params.get name := by
  rw [Params.get, Params.get, Named.get?_cons_ne h]

end Covenant
