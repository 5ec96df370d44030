import Covenant.Proofs.Filter.Step
import Covenant.Proofs.Registry.Table

/-! What a registry answers after a session of calls. -/

namespace Covenant.Registry

/-- If all that is given may be registered, it can be reported as well. -/
def Request.Reported (request : Request) : Prop :=
  ∀ entries, request.entries = .ok entries → report entries = .ok ()

def Call.Reported (call : Call) : Prop :=
  ∀ request, call = .register request → request.Reported

/-- What a call registers if it does not fail. -/
def Call.entries : Call → Named Entry
  | .register request => request.entries.toOption.getD []
  | .lookup _ | .instanceFor _ => []

/-- What the calls of a session register that do not fail, one after the other. -/
def registered (registry : Registry) : List Call → Named Entry
  | [] => []
  | call :: rest =>
    let (reply, next) := registry.answer call
    (if reply.isOk then call.entries else []) ++ next.registered rest

variable {registry : Registry} {calls : List Call}

/-- An instance is found among those made so far, or there is none of its kind and it is made. -/
theorem instanceFor_eq_ok {found : Instance} (h : registry.instanceFor token = .ok (found, next)) :
    registry.kind token = .ok found.kind ∧
      (found ∈ registry.instances ∧ next = registry ∨
        found.kind ∉ registry.instances.map (·.kind) ∧
          next = { registry with instances := found :: registry.instances }) := by
  obtain ⟨k, hk, h⟩ := bind_eq_ok.mp h
  split at h
  · rename_i i hi
    cases h
    have he : found.kind = k := by simpa using List.find?_some hi
    exact ⟨he ▸ hk, .inl ⟨List.mem_of_find?_eq_some hi, rfl⟩⟩
  · rename_i hi
    cases h
    refine ⟨hk, .inr ⟨fun hm => ?_, rfl⟩⟩
    obtain ⟨i, hmem, he⟩ := List.mem_map.mp hm
    exact List.find?_eq_none.mp hi i hmem (decide_eq_true he)

theorem answer_instanceFor (registry : Registry) (token : String) :
    (∃ e, registry.answer (.instanceFor token) = (.error e, registry)) ∨
      ∃ found next, registry.instanceFor token = .ok (found, next) ∧
        registry.answer (.instanceFor token) = (.ok (.shared found), next) := by
  rw [answer]
  cases hi : registry.instanceFor token with
  | error e => exact .inl ⟨e, rfl⟩
  | ok p => exact .inr ⟨p.1, p.2, rfl, rfl⟩

theorem answer_register (registry : Registry) (request : Request) :
    registry.answer (.register request) =
      ((registry.handle request).1.map fun _ => .registered, (registry.handle request).2) := rfl

/-- A call that fails leaves the registry as it is, but for a registration whose report crashes. -/
theorem eq_of_answer_error (h : (registry.answer call).1 = .error e) :
    (registry.answer call).2 = registry ∨
      ∃ request entries, call = .register request ∧ request.entries = .ok entries ∧
        report entries = .error e ∧ e.IsCrash := by
  cases call with
  | register request =>
    rw [answer, handle] at h ⊢
    cases he : request.entries with
    | error e => exact .inl rfl
    | ok entries =>
      refine .inr ⟨request, entries, rfl, he, ?_⟩
      rw [he] at h
      cases hr : report entries with
      | error e' =>
        simp only [hr, Except.map] at h
        obtain rfl := Except.error.inj h
        exact ⟨rfl, report_crashes entries e' hr⟩
      | ok u =>
        simp only [hr, Except.map] at h
        cases h
  | lookup token => exact .inl rfl
  | instanceFor token =>
    rcases answer_instanceFor registry token with ⟨e', ha⟩ | ⟨found, next, _, ha⟩
    · rw [ha]
      exact .inl rfl
    · rw [ha] at h
      cases h

/-- A call that fails leaves the registry as it is. -/
theorem answer_error (hr : call.Reported) (h : (registry.answer call).1 = .error e) :
    (registry.answer call).2 = registry := by
  rcases eq_of_answer_error h with h | ⟨request, entries, hc, he, hf, _⟩
  · exact h
  · rw [hr request hc entries he] at hf
    cases hf

theorem table_answer (hr : call.Reported) :
    (registry.answer call).2.table =
      registry.table.update (if (registry.answer call).1.isOk then call.entries else []) := by
  cases call with
  | register request =>
    rw [answer, handle, Call.entries]
    cases he : request.entries with
    | error e => rfl
    | ok entries =>
      simp only [hr request rfl entries he]
      rfl
  | lookup token =>
    rw [Call.entries, ite_self]
    rfl
  | instanceFor token =>
    rw [Call.entries, ite_self]
    rcases answer_instanceFor registry token with ⟨e, h⟩ | ⟨found, next, hi, h⟩
    · rw [h]
      rfl
    · rw [h]
      rcases (instanceFor_eq_ok hi).2 with ⟨_, rfl⟩ | ⟨_, rfl⟩
      · rfl
      · rfl

theorem table_answerAll (hr : ∀ call ∈ calls, call.Reported) :
    (registry.answerAll calls).2.table = registry.table.update (registry.registered calls) := by
  induction calls generalizing registry with
  | nil => rfl
  | cons call calls ih =>
    obtain ⟨hcall, hr⟩ := List.forall_mem_cons.mp hr
    rw [registered, Named.update_append, ← table_answer hcall]
    exact ih hr

theorem mem_call_entries {call : Call} {b : Bool} (h : e ∈ if b then call.entries else []) :
    ∃ request, call = .register request ∧ ∃ entries, request.entries = .ok entries ∧
      e ∈ entries := by
  cases b with
  | false => cases h
  | true =>
    cases call with
    | register request =>
      rw [if_pos rfl, Call.entries] at h
      cases he : request.entries with
      | error e =>
        rw [he] at h
        cases h
      | ok entries =>
        rw [he] at h
        exact ⟨request, rfl, entries, he, h⟩
    | lookup token => cases h
    | instanceFor token => cases h

/-- What is registered in a session was given to one of its calls. -/
theorem mem_registered (h : e ∈ registry.registered calls) :
    Entry.IsToken e.1 ∧ ∃ request target, .register request ∈ calls ∧
      (.text e.1, target) ∈ request.targets ∧ Entry.ofTarget e.1 target = .ok e.2 := by
  induction calls generalizing registry with
  | nil => cases h
  | cons call calls ih =>
    rw [registered] at h
    rcases List.mem_append.mp h with h | h
    · obtain ⟨request, rfl, entries, he, h⟩ := mem_call_entries h
      obtain ⟨ht, target, hmem, hentry⟩ := Request.mem_entries he h
      exact ⟨ht, request, target, List.mem_cons_self, hmem, hentry⟩
    · obtain ⟨ht, request, target, hmem, hrest⟩ := ih h
      exact ⟨ht, request, target, List.mem_cons_of_mem _ hmem, hrest⟩

/-- A call makes one instance at most, of a kind that had none. -/
theorem instances_answer (registry : Registry) (call : Call) :
    (registry.answer call).2.instances = registry.instances ∨
      ∃ made : Instance, made.kind ∉ registry.instances.map (·.kind) ∧
        (registry.answer call).2.instances = made :: registry.instances := by
  cases call with
  | register request =>
    rw [answer, handle]
    cases request.entries with
    | error e => exact .inl rfl
    | ok entries => exact .inl rfl
  | lookup token => exact .inl rfl
  | instanceFor token =>
    rcases answer_instanceFor registry token with ⟨e, ha⟩ | ⟨found, next, hi, ha⟩
    · rw [ha]
      exact .inl rfl
    · rw [ha]
      rcases (instanceFor_eq_ok hi).2 with ⟨_, rfl⟩ | ⟨hk, rfl⟩
      · exact .inl rfl
      · exact .inr ⟨found, hk, rfl⟩

theorem sound_answer (registry : Registry) (call : Call) :
    (registry.answer call).2.sound = registry.sound := by
  cases call with
  | register request =>
    rw [answer, handle]
    cases request.entries with
    | error e => rfl
    | ok entries => rfl
  | lookup token => rfl
  | instanceFor token =>
    rcases answer_instanceFor registry token with ⟨e, ha⟩ | ⟨found, next, hi, ha⟩
    · rw [ha]
    · rw [ha]
      rcases (instanceFor_eq_ok hi).2 with ⟨_, rfl⟩ | ⟨_, rfl⟩
      · rfl
      · rfl

theorem answerAll_cons (registry : Registry) (call : Call) (calls : List Call) :
    registry.answerAll (call :: calls) =
      ((registry.answer call).1 :: ((registry.answer call).2.answerAll calls).1,
        ((registry.answer call).2.answerAll calls).2) := rfl

theorem sound_answerAll (registry : Registry) (calls : List Call) :
    (registry.answerAll calls).2.sound = registry.sound := by
  induction calls generalizing registry with
  | nil => rfl
  | cons call calls ih => exact (ih _).trans (sound_answer registry call)

/-- At most one instance is made for each kind. -/
theorem nodup_instances_answerAll (h : (registry.instances.map (·.kind)).Nodup) :
    ((registry.answerAll calls).2.instances.map (·.kind)).Nodup := by
  induction calls generalizing registry with
  | nil => exact h
  | cons call calls ih =>
    rw [answerAll_cons]
    refine ih ?_
    rcases instances_answer registry call with he | ⟨made, hk, he⟩
    · rw [he]
      exact h
    · rw [he]
      exact List.nodup_cons.mpr ⟨hk, h⟩

/-- An instance is kept once it is made. -/
theorem subset_instances_answerAll (registry : Registry) (calls : List Call) :
    registry.instances ⊆ (registry.answerAll calls).2.instances := by
  induction calls generalizing registry with
  | nil => exact List.Subset.refl _
  | cons call calls ih =>
    rw [answerAll_cons]
    refine List.Subset.trans ?_ (ih _)
    rcases instances_answer registry call with he | ⟨made, _, he⟩
    · rw [he]
      exact List.Subset.refl _
    · rw [he]
      exact List.subset_cons_self _ _

theorem mem_instances_of_answer (h : (registry.answer call).1 = .ok (.shared found)) :
    found ∈ (registry.answer call).2.instances := by
  cases call with
  | register request =>
    rw [answer_register] at h
    cases ho : (registry.handle request).1 <;> rw [ho] at h <;> cases h
  | lookup token =>
    rw [answer] at h
    cases hl : registry.lookup token <;> rw [hl] at h <;> cases h
  | instanceFor token =>
    rcases answer_instanceFor registry token with ⟨e, ha⟩ | ⟨found, next, hi, ha⟩
    · rw [ha] at h
      cases h
    · rw [ha] at h ⊢
      cases h
      rcases (instanceFor_eq_ok hi).2 with ⟨hm, rfl⟩ | ⟨_, rfl⟩
      · exact hm
      · exact List.mem_cons_self

/-- Every instance that is served stays. -/
theorem mem_instances_of_answerAll (h : .ok (.shared found) ∈ (registry.answerAll calls).1) :
    found ∈ (registry.answerAll calls).2.instances := by
  induction calls generalizing registry with
  | nil => cases h
  | cons call calls ih =>
    rcases List.mem_cons.mp h with h | h
    · exact subset_instances_answerAll _ calls (mem_instances_of_answer h.symm)
    · exact ih h

/-- What a token stands for is what was registered last under it, or what it stood for before. -/
theorem lookup_of_table (h : registry.table = Named.update builtin entries) (token : String) :
    registry.lookup token =
      match (Named.get? entries.reverse token).or (builtin.get? token) with
      | some entry => .ok entry
      | none => .error (.malformed ("Unknown type '" ++ token ++ "'.")) := by
  have hl : registry.lookup token =
      match registry.table.get? token with
      | some entry => .ok entry
      | none => .error (.malformed ("Unknown type '" ++ token ++ "'.")) := rfl
  rw [hl, h, Named.get?_update_reverse]

theorem answer_instanceFor_kind (hs : registry.sound) (hl : registry.lookup token = .ok (.kind k)) :
    ∃ found : Instance, found.kind = k ∧
      (registry.answer (.instanceFor token)).1 = .ok (.shared found) := by
  have hk : registry.kind token = .ok k := by
    rw [kind, hl]
    exact if_pos hs
  rcases answer_instanceFor registry token with ⟨e, ha⟩ | ⟨found, next, hi, ha⟩
  · exfalso
    rw [answer, instanceFor, hk] at ha
    simp only [bind, Except.bind] at ha
    cases hf : registry.instances.find? (·.kind = k) <;> rw [hf] at ha <;> cases ha
  · rw [(instanceFor_eq_ok hi).1] at hk
    cases hk
    exact ⟨found, rfl, congrArg Prod.fst ha⟩

theorem lookup_eq_kind_iff (hs : registry.sound) :
    registry.lookup token = .ok (.kind k) ↔
      ∃ found : Instance, found.kind = k ∧
        (registry.answer (.instanceFor token)).1 = .ok (.shared found) := by
  refine ⟨answer_instanceFor_kind hs, ?_⟩
  rintro ⟨found, rfl, h⟩
  rcases answer_instanceFor registry token with ⟨e, ha⟩ | ⟨found', next, hi, ha⟩
  · rw [ha] at h
    cases h
  · rw [ha] at h
    cases h
    obtain ⟨entry, hl, hk⟩ := bind_eq_ok.mp (instanceFor_eq_ok hi).1
    cases entry with
    | kind k =>
      cases (if_pos hs).symm.trans hk
      exact hl
    | template t => cases hk

/-- Registries that no call tells apart. -/
structure Alike (registry other : Registry) : Prop where
  table : ∀ token, registry.table.get? token = other.table.get? token
  sound : registry.sound = other.sound
  instances : registry.instances = other.instances

namespace Alike

variable {other : Registry}

theorem publish (h : registry.Alike other) (entries : Named Entry) :
    (registry.publish entries).Alike (other.publish entries) := by
  refine ⟨fun token => ?_, h.sound, h.instances⟩
  rw [Registry.publish, Registry.publish, Named.get?_update_reverse, Named.get?_update_reverse,
    h.table]

theorem lookup (h : registry.Alike other) (token : String) :
    registry.lookup token = other.lookup token := by
  rw [Registry.lookup, Registry.lookup, h.table]

theorem kind (h : registry.Alike other) (token : String) :
    registry.kind token = other.kind token := by
  rw [Registry.kind, Registry.kind, h.lookup, h.sound]

theorem answer (h : registry.Alike other) (call : Call) :
    (registry.answer call).1 = (other.answer call).1 ∧
      (registry.answer call).2.Alike (other.answer call).2 := by
  cases call with
  | register request =>
    simp only [Registry.answer, handle]
    cases request.entries with
    | error e => exact ⟨rfl, h⟩
    | ok entries => exact ⟨rfl, h.publish entries⟩
  | lookup token =>
    refine ⟨?_, h⟩
    rw [Registry.answer, Registry.answer, h.lookup]
  | instanceFor token =>
    simp only [Registry.answer, instanceFor, h.kind, h.instances]
    cases other.kind token with
    | error e => exact ⟨rfl, h⟩
    | ok k =>
      simp only [bind, Except.bind]
      cases other.instances.find? (·.kind = k) with
      | some found => exact ⟨rfl, h⟩
      | none => exact ⟨rfl, h.table, h.sound, rfl⟩

theorem answerAll (h : registry.Alike other) (calls : List Call) :
    (registry.answerAll calls).1 = (other.answerAll calls).1 := by
  induction calls generalizing registry other with
  | nil => rfl
  | cons call calls ih =>
    obtain ⟨hreply, hnext⟩ := h.answer call
    rw [answerAll_cons, answerAll_cons, hreply, ih hnext]

end Alike

/-- Entries under different names may be put in either way around. -/
theorem publish_publish_alike (registry : Registry) {s t : Named Entry}
    (hd : ∀ e ∈ s, ∀ e' ∈ t, e.1 ≠ e'.1) :
    ((registry.publish s).publish t).Alike ((registry.publish t).publish s) := by
  refine ⟨fun token => ?_, rfl, rfl⟩
  simp only [publish, Named.get?_update_reverse]
  cases hs : Named.get? s.reverse token with
  | none => rfl
  | some a =>
    have ht : Named.get? t.reverse token = none := by
      rw [Named.get?_eq_none_iff]
      intro hm
      obtain ⟨e, he, hn⟩ := List.mem_map.mp hm
      have ha := List.mem_reverse.mp (Named.mem_of_get? hs)
      exact hd _ ha e (List.mem_reverse.mp he) hn.symm
    rw [ht]
    rfl

/-- Whether a registration fails does not depend on what is registered already. -/
theorem answer_register_ok (h : (registry.answer (.register request)).1.isOk) :
    ∃ entries, request.entries = .ok entries ∧ ∀ other : Registry,
      other.answer (.register request) = (.ok .registered, other.publish entries) := by
  cases he : request.entries with
  | error e =>
    rw [answer, handle, he] at h
    cases h
  | ok entries =>
    refine ⟨entries, rfl, fun other => ?_⟩
    simp only [answer, handle, he] at h ⊢
    cases hr : report entries with
    | error e =>
      rw [hr] at h
      cases h
    | ok u => rfl

/-- Registrations of different tokens that do not fail may be made either way around. -/
theorem answerAll_register_comm (hf : (registry.answer (.register first)).1.isOk)
    (ht : (registry.answer (.register second)).1.isOk)
    (hd : List.Disjoint (first.targets.map (·.1)) (second.targets.map (·.1)))
    (later : List Call) :
    (registry.answerAll (.register first :: .register second :: later)).1 =
      (registry.answerAll (.register second :: .register first :: later)).1 := by
  obtain ⟨s, hse, hs⟩ := answer_register_ok hf
  obtain ⟨t, hte, ht⟩ := answer_register_ok ht
  have hd (e) (he : e ∈ s) (e') (he' : e' ∈ t) : e.1 ≠ e'.1 := by
    intro hn
    obtain ⟨_, target, hm, _⟩ := Request.mem_entries hse he
    obtain ⟨_, target', hm', _⟩ := Request.mem_entries hte he'
    exact hd (List.mem_map_of_mem hm) (List.mem_map.mpr ⟨_, hm', by rw [hn]⟩)
  have hlater := (publish_publish_alike registry hd).answerAll later
  simp only [answerAll_cons, hs, ht, hlater]

end Covenant.Registry
