import Covenant.Proofs.JsonText.RoundTrip

/-! What is read from JSON is plain data. -/

namespace Covenant

namespace Value

variable {v : Value}

theorem equalLists_self (h : ∀ v ∈ items, equals v v = true) : equalLists items items = true := by
  induction items with
  | nil => rfl
  | cons v items ih =>
    obtain ⟨hv, h⟩ := List.forall_mem_cons.mp h
    rw [equalLists, hv, ih h]
    rfl

theorem equalEntries_of_subset {entries other : List (Value × Value)}
    (h : ∀ e ∈ entries, equals e.1 e.1 = true ∧ equals e.2 e.2 = true) (hs : entries ⊆ other) :
    equalEntries entries other = true := by
  induction entries with
  | nil => rfl
  | cons e entries ih =>
    obtain ⟨k, v⟩ := e
    obtain ⟨⟨hk, hv⟩, h⟩ := List.forall_mem_cons.mp h
    obtain ⟨hm, hs⟩ := List.cons_subset.mp hs
    have hany : other.any (fun e => equals k e.1 && equals v e.2) = true :=
      List.any_eq_true.mpr ⟨(k, v), hm, by rw [hk, hv]; rfl⟩
    rw [equalEntries, hany, ih h hs]
    rfl

/-- Plain data equals itself: it holds no number that differs from itself. -/
theorem IsPlain.equals_self (h : v.IsPlain false) : v.equals v = true := by
  induction h with
  | null => rfl
  | bool b => simp [equals, sameNumber]
  | int i => simp [equals, sameNumber]
  | @float x hx =>
    cases x with
    | nan => simp [Double.isFinite] at hx
    | number negative rank => simp [equals, sameNumber, Double.eq, Double.key]
  | text s => simp [equals]
  | list h ih =>
    rw [equals]
    exact equalLists_self ih
  | map hk hd h ih =>
    rw [equals, equalEntries_of_subset (fun e he => ?_) (List.Subset.refl _)]
    · simp
    · obtain ⟨name, hname⟩ := hk e he
      exact ⟨by simp [hname, equals], ih e he⟩

end Value

namespace JsonText

variable {constants : Bool} {cs rest : List Char}

theorem isPlain_of_readNumber (h : readNumber cs = .ok (v, rest)) : v.IsPlain true := by
  unfold readNumber at h
  dsimp only at h
  split at h
  · cases h
  · split at h
    · split at h
      · cases h
      · cases h
        exact .int _
    · split at h
      · cases h
        exact .float (.inl rfl)
      · cases h

theorem isPlain_of_readConstant? (h : readConstant? constants cs = some (.ok (v, rest))) :
    v.IsPlain true := by
  have hspecial {x : Double} {tail : List Char}
      (h : (if constants then .ok (.float x, tail) else .error Problem.constant) =
        Except.ok (v, rest)) : v.IsPlain true := by
    split at h
    · cases h
      exact .float (.inl rfl)
    · cases h
  unfold readConstant? at h
  dsimp only at h
  split at h
  · cases h
    exact .null
  · cases h
    exact .bool _
  · cases h
    exact .bool _
  · exact hspecial (Option.some.inj h)
  · exact hspecial (Option.some.inj h)
  · exact hspecial (Option.some.inj h)
  · cases h

/-- The entries that are read may name a key more than once, and those of the mapping do not. -/
theorem isPlain_ofList {entries : Entries}
    (h : ∀ e ∈ entries, (∃ name, e.1 = .text name) ∧ e.2.IsPlain constants) :
    (Value.map (Entries.ofList entries)).IsPlain constants := by
  have he : ∀ e ∈ Entries.update [] entries, (∃ name, e.1 = .text name) ∧ e.2.IsPlain constants :=
    @Entries.update_forall [] (fun k => ∃ name, k = .text name) (·.IsPlain constants) _ (by simp) h
  have hd : Entries.Distinct (Entries.update [] entries) := Entries.Distinct.update .nil entries
  exact .map (fun e hm => (he e hm).1) hd fun e hm => (he e hm).2

mutual
theorem isPlain_of_readValue {cs rest : List Char} (fuel : Nat)
    (h : readValue constants fuel cs = .ok (v, rest)) : v.IsPlain true := by
  match fuel with
  | 0 => cases h
  | fuel + 1 =>
    rw [readValue.eq_def] at h
    dsimp only at h
    split at h
    · obtain ⟨⟨name, tail⟩, _, h⟩ := bind_eq_ok.mp h
      cases h
      exact .text _
    · split at h
      · cases h
        exact .list (by simp)
      · obtain ⟨⟨items, tail⟩, hitems, h⟩ := bind_eq_ok.mp h
        cases h
        exact .list (isPlain_of_readItems fuel hitems)
    · split at h
      · cases h
        exact .map (by simp) .nil (by simp)
      · obtain ⟨⟨entries, tail⟩, hentries, h⟩ := bind_eq_ok.mp h
        cases h
        exact isPlain_ofList (isPlain_of_readEntries fuel hentries)
    · cases hc : readConstant? constants cs with
      | none =>
        rw [hc] at h
        exact isPlain_of_readNumber h
      | some r =>
        rw [hc] at h
        obtain rfl : r = .ok (v, rest) := h
        exact isPlain_of_readConstant? hc

theorem isPlain_of_readItems {cs rest : List Char} (fuel : Nat)
    (h : readItems constants fuel cs = .ok (items, rest)) : ∀ v ∈ items, v.IsPlain true := by
  match fuel with
  | 0 => cases h
  | fuel + 1 =>
    rw [readItems] at h
    obtain ⟨⟨item, tail⟩, hitem, h⟩ := bind_eq_ok.mp h
    have hp := isPlain_of_readValue fuel hitem
    dsimp only at h
    split at h
    · cases h
      exact List.forall_mem_singleton.mpr hp
    · obtain ⟨⟨items, tail⟩, hitems, h⟩ := bind_eq_ok.mp h
      cases h
      exact List.forall_mem_cons.mpr ⟨hp, isPlain_of_readItems fuel hitems⟩
    · cases h

theorem isPlain_of_readEntries {cs rest : List Char} (fuel : Nat)
    (h : readEntries constants fuel cs = .ok (entries, rest)) :
    ∀ e ∈ entries, (∃ name, e.1 = .text name) ∧ e.2.IsPlain true := by
  match fuel with
  | 0 => cases h
  | fuel + 1 =>
    rw [readEntries.eq_def] at h
    dsimp only at h
    split at h
    · obtain ⟨⟨name, tail⟩, _, h⟩ := bind_eq_ok.mp h
      dsimp only at h
      split at h
      · obtain ⟨⟨value, tail⟩, hvalue, h⟩ := bind_eq_ok.mp h
        have hp := isPlain_of_readValue fuel hvalue
        dsimp only at h
        split at h
        · cases h
          exact List.forall_mem_singleton.mpr ⟨⟨_, rfl⟩, hp⟩
        · obtain ⟨⟨entries, tail⟩, hentries, h⟩ := bind_eq_ok.mp h
          cases h
          exact List.forall_mem_cons.mpr ⟨⟨⟨_, rfl⟩, hp⟩, isPlain_of_readEntries fuel hentries⟩
        · cases h
      · cases h
    · cases h
end

theorem isPlain_of_read (h : read constants cs = .ok v) : v.IsPlain true := by
  rw [read] at h
  split at h
  · cases h
  · obtain ⟨⟨value, tail⟩, hvalue, h⟩ := bind_eq_ok.mp h
    dsimp only at h
    split at h
    · cases h
      exact isPlain_of_readValue _ hvalue
    · cases h

end JsonText
end Covenant
