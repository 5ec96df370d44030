import Covenant.Proofs.Contract.Params
import Covenant.Proofs.Final
import Covenant.Registry

/-! What a registration puts into the table of a registry. -/

namespace Covenant

namespace Named

theorem update_append (table s t : Named α) :
    table.update (s ++ t) = Named.update (table.update s) t :=
  List.foldl_append

theorem mem_update {table t : Named α} (h : e ∈ table.update t) : e ∈ table ∨ e ∈ t := by
  induction t generalizing table with
  | nil => exact .inl h
  | cons e' t ih =>
    rw [update, List.foldl_cons] at h
    rcases ih h with h | h
    · rcases mem_put h with rfl | h
      · exact .inr List.mem_cons_self
      · exact .inl h
    · exact .inr (List.mem_cons_of_mem _ h)

/-- Of what is put in under a name, the last counts. -/
theorem get?_update_reverse (table t : Named α) (name : String) :
    (table.update t).get? name = (get? t.reverse name).or (table.get? name) := by
  induction t generalizing table with
  | nil => rfl
  | cons e t ih =>
    rw [update, List.foldl_cons, List.reverse_cons, get?_append, Option.or_assoc]
    refine (ih (table.put e.1 e.2)).trans (congrArg _ ?_)
    by_cases he : e.1 = name
    · rw [← he, get?_put_self, get?_cons_self]
      rfl
    · rw [get?_put_ne he, get?_cons_ne he]
      rfl

end Named

/-- The contract of the template has a type. -/
def Template.IsTyped (template : Template) : Prop :=
  ((template.contract.get? (.text "type")).getD .null).isTrue

instance (template : Template) : Decidable template.IsTyped :=
  inferInstanceAs (Decidable (_ = true))

theorem Template.isTyped_of_ofEntries {template : Template}
    (h : ofEntries entries i = .ok template) : template.IsTyped := by
  obtain ⟨params, _, h⟩ := bind_eq_ok.mp h
  split at h
  · rename_i ht
    cases h
    rw [IsTyped, Params.get?_toEntries]
    exact ht
  · cases h
    rfl

namespace Entry

/-- A token that can stand in a type expression. -/
structure IsToken (token : String) : Prop where
  nonempty : token.toList ≠ []
  trimmed : trim token.toList = token.toList
  unreserved : ∀ c ∈ token.toList, ¬isReserved c

theorem isToken_iff : IsToken token ↔ token.toList ≠ [] ∧ trim token.toList = token.toList ∧
    token.toList.all (!isReserved ·) := by
  constructor
  · intro h
    refine ⟨h.nonempty, h.trimmed, List.all_eq_true.mpr fun c hc => ?_⟩
    simpa using h.unreserved c hc
  · rintro ⟨hn, ht, hu⟩
    refine ⟨hn, ht, fun c hc => ?_⟩
    simpa using List.all_eq_true.mp hu c hc

instance : DecidablePred IsToken := fun _ => decidable_of_iff _ isToken_iff.symm

/-- Only a text is a token. -/
theorem isToken_of_readToken (h : readToken v = .ok token) : v = .text token ∧ IsToken token := by
  unfold readToken at h
  split at h
  · split at h
    · obtain ⟨_, _, h⟩ := bind_eq_ok.mp h
      cases h
    · rename_i hb
      split at h
      · cases h
      · rename_i s hr
        cases h
        rw [Bool.or_eq_true, not_or, bne_iff_ne, not_not] at hr
        refine ⟨rfl, fun hn => hb (by rw [hn]; rfl), hr.2, fun c hc hres => hr.1 ?_⟩
        exact List.any_eq_true.mpr ⟨c, hc, hres⟩
  · obtain ⟨_, _, h⟩ := bind_eq_ok.mp h
    cases h

/-- A template is taken as it is; one made from a contract has a type. -/
theorem isTyped_of_ofTarget {t : Template} (h : ofTarget token target = .ok (.template t)) :
    target = .template t ∨ t.IsTyped := by
  unfold ofTarget at h
  split at h
  · cases h
  · cases h
  · cases h
    exact .inl rfl
  · obtain ⟨params, _, h⟩ := bind_eq_ok.mp h
    obtain ⟨t, ht, h⟩ := bind_eq_ok.mp h
    cases h
    exact .inr (Template.isTyped_of_ofEntries ht)
  · cases h
    exact .inr rfl
  · cases h
    exact .inr rfl
  · obtain ⟨t, ht, h⟩ := bind_eq_ok.mp h
    cases h
    exact .inr (Template.isTyped_of_ofEntries ht)
  · cases h

end Entry

namespace Registry

/-- Every entry has been made from a target under its token. -/
theorem mem_entriesOf (h : entriesOf aliases = .ok entries) (he : e ∈ entries) :
    Entry.IsToken e.1 ∧
      ∃ target, (.text e.1, target) ∈ aliases ∧ Entry.ofTarget e.1 target = .ok e.2 := by
  induction aliases generalizing entries with
  | nil =>
    cases h
    cases he
  | cons a aliases ih =>
    rw [entriesOf, List.mapM_cons] at h
    obtain ⟨first, hfirst, h⟩ := bind_eq_ok.mp h
    obtain ⟨rest, hrest, h⟩ := bind_eq_ok.mp h
    cases h
    rcases List.mem_cons.mp he with rfl | he
    · obtain ⟨token, ht, hfirst⟩ := bind_eq_ok.mp hfirst
      obtain ⟨entry, hentry, hpair⟩ := bind_eq_ok.mp hfirst
      cases hpair
      obtain ⟨ha, htoken⟩ := Entry.isToken_of_readToken ht
      refine ⟨htoken, a.2, ?_, hentry⟩
      rw [← ha]
      exact List.mem_cons_self
    · obtain ⟨htoken, target, hmem, hentry⟩ := ih hrest he
      exact ⟨htoken, target, List.mem_cons_of_mem _ hmem, hentry⟩

/-- What is given to be registered, token by token. -/
def Request.targets : Request → List (Value × Target)
  | .one token target => [(token, target)]
  | .many aliases _ => aliases

theorem Request.mem_entries {request : Request} {entries : Named Entry}
    (h : request.entries = .ok entries) (he : e ∈ entries) :
    Entry.IsToken e.1 ∧
      ∃ target, (.text e.1, target) ∈ request.targets ∧ Entry.ofTarget e.1 target = .ok e.2 := by
  unfold Request.entries at h
  split at h
  · exact mem_entriesOf h he
  · exact mem_entriesOf h he
  · cases h

theorem report_crashes (entries : Named Entry) : FailsAs Failure.IsCrash (report entries) := by
  fun_induction report entries with
  | case1 => exact .ok _
  | case2 _ _ _ ih => exact ih
  | case3 _ t _ ih =>
    refine .bind ?_ fun _ => ih
    exact .map _ (Value.shown_crashes _)

theorem register_eq_ok_iff :
    register registry request = .ok next ↔
      ∃ entries, request.entries = .ok entries ∧ report entries = .ok () ∧
        next = registry.publish entries := by
  rw [register, handle]
  cases request.entries with
  | error e => simp [Except.map]
  | ok entries => cases hr : report entries <;> simp [Except.map, hr, eq_comm]

theorem isToken_of_mem_builtin : ∀ e ∈ builtin, Entry.IsToken e.1 := by
  decide

theorem isTyped_of_mem_builtin (h : (token, .template template) ∈ builtin) : template.IsTyped := by
  rcases List.mem_append.mp h with h | h
  · obtain ⟨_, _, he⟩ := List.mem_map.mp h
    cases he
  · obtain ⟨e, hm, he⟩ := List.mem_map.mp h
    cases he
    have hall : ∀ e ∈ templates, Template.IsTyped ⟨Params.toEntries e.2, false⟩ := by decide
    exact hall e hm

end Registry
end Covenant
