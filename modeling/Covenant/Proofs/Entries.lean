import Covenant.Value
import Mathlib.Data.List.Basic

/-! Mappings with values as keys. -/

namespace Covenant

namespace Value

theorem equals_text_iff {v : Value} : v.equals (.text s) = true ↔ v = .text s := by
  cases v <;> simp [equals, sameNumber]

theorem text_equals_iff {v : Value} : (text s).equals v = true ↔ v = .text s := by
  cases v <;> simp [equals, sameNumber, @eq_comm _ s]

end Value

namespace Entries

variable {entries : Entries} {P Q : Value → Prop}

theorem get?_eq_none : entries.get? key = none ↔ ∀ e ∈ entries, ¬e.1.equals key := by
  simp [get?]

/-- No key counts as one that comes after it. -/
def Distinct (entries : Entries) : Prop := entries.Pairwise fun a b => ¬a.1.equals b.1

instance : Decidable (Distinct entries) :=
  inferInstanceAs (Decidable (entries.Pairwise fun a b => ¬a.1.equals b.1))

theorem distinct_of_texts {names : List String} (h : entries.map (·.1) = names.map Value.text)
    (hn : names.Nodup) : Distinct entries := by
  have hp : (names.map Value.text).Pairwise fun a b => ¬a.equals b := by
    refine List.pairwise_map.mpr (hn.imp ?_)
    intro a b hab he
    exact hab (Value.text.inj (Value.equals_text_iff.mp he))
  rw [← h] at hp
  exact List.pairwise_map.mp hp

theorem get?_of_mem (hd : Distinct entries) (h : (.text s, v) ∈ entries) :
    entries.get? (.text s) = some v := by
  induction entries with
  | nil => cases h
  | cons e entries ih =>
    obtain ⟨hk, hd⟩ := List.pairwise_cons.mp hd
    rcases List.mem_cons.mp h with rfl | h
    · simp [get?, Value.equals]
    · have he : (e.1.equals (.text s)) = false := Bool.eq_false_iff.mpr (hk _ h)
      rw [get?, List.find?_cons_of_neg (by simp [he])]
      exact ih hd h

theorem get?_append_of_isSome (h : entries.get? key = some v) (rest : Entries) :
    get? (entries ++ rest) key = some v := by
  rw [get?, Option.map_eq_some_iff] at h ⊢
  obtain ⟨e, he, hv⟩ := h
  exact ⟨e, by rw [List.find?_append, he, Option.some_or], hv⟩

theorem put_append (h : ∀ e ∈ entries, ¬e.1.equals key) (rest : Entries) (v : Value) :
    put (entries ++ rest) key v = entries ++ rest.put key v := by
  induction entries with
  | nil => rfl
  | cons e entries ih =>
    obtain ⟨k, w⟩ := e
    rw [List.cons_append, put, if_neg (h (k, w) (by simp)), ih fun e he => h e (by simp [he])]
    rfl

theorem put_forall (h : ∀ e ∈ entries, P e.1 ∧ Q e.2) (hk : P key) (hv : Q v) :
    ∀ e ∈ entries.put key v, P e.1 ∧ Q e.2 := by
  induction entries with
  | nil =>
    intro e he
    cases List.mem_singleton.mp he
    exact ⟨hk, hv⟩
  | cons e entries ih =>
    obtain ⟨⟨hp, hq⟩, h⟩ := List.forall_mem_cons.mp h
    rw [put]
    split
    · exact List.forall_mem_cons.mpr ⟨⟨hp, hv⟩, h⟩
    · exact List.forall_mem_cons.mpr ⟨⟨hp, hq⟩, ih h⟩

theorem Distinct.put (h : Distinct entries) (key v : Value) : Distinct (entries.put key v) := by
  induction entries with
  | nil => exact List.pairwise_singleton _ _
  | cons e entries ih =>
    obtain ⟨hk, h⟩ := List.pairwise_cons.mp h
    rw [Entries.put]
    split
    · exact List.pairwise_cons.mpr ⟨hk, h⟩
    · rename_i hne
      have hk' : ∀ a ∈ Entries.put entries key v, ¬e.1.equals a.1 ∧ True :=
        put_forall (P := fun k => ¬e.1.equals k) (Q := fun _ => True)
          (fun a ha => ⟨hk a ha, trivial⟩) hne trivial
      exact List.pairwise_cons.mpr ⟨fun a ha => (hk' a ha).1, ih h⟩

theorem update_append (h : ∀ a ∈ entries, ∀ b ∈ other, ¬a.1.equals b.1) (rest : Entries) :
    update (entries ++ rest) other = entries ++ rest.update other := by
  induction other generalizing rest with
  | nil => rfl
  | cons b other ih =>
    rw [update, List.foldl_cons, put_append fun a ha => h a ha b (by simp)]
    exact ih (fun a ha b hb => h a ha b (by simp [hb])) (rest.put b.1 b.2)

theorem update_of_distinct (h : Distinct (entries ++ other)) :
    entries.update other = entries ++ other := by
  induction other generalizing entries with
  | nil => exact (List.append_nil entries).symm
  | cons b other ih =>
    have hb : entries.put b.1 b.2 = entries ++ [b] := by
      have hp := put_append (fun a ha => (List.pairwise_append.mp h).2.2 a ha b (by simp)) [] b.2
      rwa [List.append_nil] at hp
    rw [List.append_cons] at h ⊢
    rw [update, List.foldl_cons, hb]
    exact ih h

theorem update_nil (h : Distinct entries) : update [] entries = entries :=
  @update_of_distinct [] entries h

theorem Distinct.update (h : Distinct entries) (other : Entries) :
    Distinct (entries.update other) := by
  induction other generalizing entries with
  | nil => exact h
  | cons b other ih => exact ih (h.put b.1 b.2)

theorem update_forall (h : ∀ e ∈ entries, P e.1 ∧ Q e.2) (ho : ∀ e ∈ other, P e.1 ∧ Q e.2) :
    ∀ e ∈ entries.update other, P e.1 ∧ Q e.2 := by
  induction other generalizing entries with
  | nil => exact h
  | cons b other ih =>
    obtain ⟨⟨hp, hq⟩, ho⟩ := List.forall_mem_cons.mp ho
    exact ih (put_forall h hp hq) ho

theorem get?_eq_head?_filter (entries : Entries) (key : Value) :
    entries.get? key = (List.filter (·.1.equals key) entries).head?.map (·.2) := by
  rw [get?, List.head?_filter]

/-- Putting in a key leaves the entries of another one as they are. -/
theorem filter_put (h : key ≠ .text s) (entries : Entries) (v : Value) :
    List.filter (·.1.equals (.text s)) (entries.put key v) =
      List.filter (·.1.equals (.text s)) entries := by
  have hkey : key.equals (.text s) = false := by
    rw [← Bool.not_eq_true]
    exact fun he => h (Value.equals_text_iff.mp he)
  induction entries with
  | nil => exact List.filter_cons_of_neg (by simp [hkey])
  | cons e entries ih =>
    obtain ⟨k, w⟩ := e
    rw [put]
    split
    · rename_i hk
      have hk' : k.equals (.text s) = false := by
        rw [← Bool.not_eq_true]
        intro he
        rw [Value.equals_text_iff.mp he] at hk
        exact h (Value.text_equals_iff.mp hk)
      rw [List.filter_cons_of_neg (by simp [hk']), List.filter_cons_of_neg (by simp [hk'])]
    · rw [List.filter_cons, List.filter_cons, ih]

theorem filter_update (entries : Entries) (h : ∀ e ∈ other, e.1 ≠ .text s) :
    List.filter (·.1.equals (.text s)) (entries.update other) =
      List.filter (·.1.equals (.text s)) entries := by
  induction other generalizing entries with
  | nil => rfl
  | cons e other ih =>
    obtain ⟨he, h⟩ := List.forall_mem_cons.mp h
    exact (ih (entries.put e.1 e.2) h).trans (filter_put he entries e.2)

end Entries
end Covenant
