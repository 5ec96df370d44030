import Covenant.Proofs.Filter.Reach
import Covenant.Proofs.Registry.Session

/-! A registration bears on the contracts alone that lead to what is registered. -/

namespace Covenant

namespace Registry

theorem lookup_handle {request : Request} (h : .text token ∉ request.targets.map (·.1))
    (registry : Registry) : (registry.handle request).2.lookup token = registry.lookup token := by
  rw [handle]
  cases he : request.entries with
  | error e => rfl
  | ok entries =>
    have hn : Named.get? entries.reverse token = none := by
      rw [Named.get?_eq_none_iff, List.map_reverse, List.mem_reverse]
      intro hm
      obtain ⟨e, hentry, rfl⟩ := List.mem_map.mp hm
      obtain ⟨_, target, ht, _⟩ := Request.mem_entries he hentry
      exact h (List.mem_map_of_mem ht)
    dsimp only
    rw [lookup, lookup, publish, Named.get?_update_reverse, hn, Option.none_or]

theorem sound_handle (registry : Registry) (request : Request) :
    (registry.handle request).2.sound = registry.sound :=
  sound_answer registry (.register request)

theorem lookup_answer {call : Call}
    (h : ∀ request, call = .register request → .text token ∉ request.targets.map (·.1))
    (registry : Registry) : (registry.answer call).2.lookup token = registry.lookup token := by
  cases call with
  | register request => exact lookup_handle (h request rfl) registry
  | lookup _ => rfl
  | instanceFor other =>
    rcases answer_instanceFor registry other with ⟨e, ha⟩ | ⟨found, next, hi, ha⟩
    · rw [ha]
    · rw [ha]
      rcases (instanceFor_eq_ok hi).2 with ⟨_, rfl⟩ | ⟨_, rfl⟩
      · rfl
      · rfl

theorem lookup_answerAll {calls : List Call}
    (h : ∀ request, .register request ∈ calls → .text token ∉ request.targets.map (·.1))
    (registry : Registry) :
    (registry.answerAll calls).2.lookup token = registry.lookup token := by
  induction calls generalizing registry with
  | nil => rfl
  | cons call calls ih =>
    have hcall := lookup_answer (fun request hc => h request (hc ▸ List.mem_cons_self)) registry
    exact (ih (fun request hm => h request (List.mem_cons_of_mem _ hm)) _).trans hcall

end Registry

namespace Filter

/-- Whether a contract leads to tokens of some kind only, as far as can be seen within a number of
levels. -/
def leadsOnlyTo (types : Registry) (allowed : String → Bool) : Nat → Value → Bool
  | 0, _ => false
  | levels + 1, contract =>
    match Node.ofContract false contract with
    | .ok (some node) => node.tried.all fun token =>
      allowed token && match types.lookup token with
        | .ok (.kind kind) => (kind != .base64 || allowed "binary") &&
          (kind.parts node.params).all (leadsOnlyTo types allowed levels)
        | .ok (.template template) =>
          match template.expand node.params with
          | .ok behind => leadsOnlyTo types allowed levels behind
          | .error _ => true
        | .error _ => true
    | _ => true

theorem leadsOnlyTo_tried {node : Node} (h : leadsOnlyTo types allowed levels contract)
    (hc : Node.ofContract false contract = .ok (some node)) (ht : token ∈ node.tried) :
    ∃ fewer, allowed token ∧
      (∀ kind, types.lookup token = .ok (.kind kind) → (kind = .base64 → allowed "binary") ∧
        ∀ part ∈ kind.parts node.params, leadsOnlyTo types allowed fewer part) ∧
      (∀ template behind, types.lookup token = .ok (.template template) →
        template.expand node.params = .ok behind → leadsOnlyTo types allowed fewer behind) := by
  cases levels with
  | zero => cases h
  | succ fewer =>
    simp only [leadsOnlyTo, hc, List.all_eq_true, Bool.and_eq_true] at h
    obtain ⟨ha, h⟩ := h token ht
    refine ⟨fewer, ha, fun kind hl => ?_, fun template behind hl hx => ?_⟩
    · simp only [hl, Bool.and_eq_true, Bool.or_eq_true, bne_iff_ne, List.all_eq_true] at h
      exact ⟨fun hk => h.1.resolve_left (absurd hk), h.2⟩
    · simp only [hl, hx] at h
      exact h

theorem allowed_of_reaches (h : Reaches types contract token)
    (hl : leadsOnlyTo types allowed levels contract) : allowed token := by
  induction h generalizing levels with
  | tried hc ht =>
    obtain ⟨_, ha, _, _⟩ := leadsOnlyTo_tried hl hc ht
    exact ha
  | content hc ht hk =>
    obtain ⟨_, _, hkind, _⟩ := leadsOnlyTo_tried hl hc ht
    exact (hkind _ hk).1 rfl
  | part hc ht hk hp _ ih =>
    obtain ⟨_, _, hkind, _⟩ := leadsOnlyTo_tried hl hc ht
    exact ih ((hkind _ hk).2 _ hp)
  | template hc ht hk hx _ ih =>
    obtain ⟨_, _, _, htemplate⟩ := leadsOnlyTo_tried hl hc ht
    exact ih (htemplate _ _ hk hx)

/-- A contract only depends on what the tokens stand for that it leads to. -/
theorem validate_of_lookup {f : Filter} {types : Registry} (hs : types.sound = f.registry.sound)
    (hl : ∀ token, Reaches f.registry contract token →
      types.lookup token = f.registry.lookup token) (data : Value) (s : Option Bool) :
    validate ⟨f.config, types⟩ data contract s = f.validate data contract s := by
  have hm : Meets (fun _ => False) f.registry types [] [] contract :=
    ⟨fun token ht => (hl token ht).symm, List.Subset.refl _,
      fun _ _ ht => absurd ht List.not_mem_nil⟩
  have hr : Pass.Follows (fun _ => False) f.registry types
      (run f.registry f.config.maxDepth (f.config.maxDepth + 1))
      (run types f.config.maxDepth (f.config.maxDepth + 1)) :=
    run_follows (fun _ he => he.elim) hs.symm (Nat.le_refl _) (.inr ⟨rfl, rfl⟩)
  rcases hr (s.getD f.config.strict) false [] [] contract hm data with ⟨_, hf, _⟩ | he
  · exact hf.elim
  · exact he.symm

/-- A registration, whether it fails or not, leaves a contract alone that leads to none of the
tokens given to it. -/
theorem validate_handle {f : Filter} {request : Registry.Request}
    (h : ∀ token, Reaches f.registry contract token → .text token ∉ request.targets.map (·.1))
    (data : Value) (s : Option Bool) :
    validate ⟨f.config, (f.registry.handle request).2⟩ data contract s =
      f.validate data contract s :=
  validate_of_lookup (Registry.sound_handle f.registry request)
    (fun token ht => Registry.lookup_handle (h token ht) f.registry) data s

/-- A session leaves a contract alone that leads to none of the tokens registered in it. -/
theorem validate_answerAll {f : Filter} {calls : List Registry.Call}
    (h : ∀ token, Reaches f.registry contract token → ∀ request, .register request ∈ calls →
      .text token ∉ request.targets.map (·.1)) (data : Value) (s : Option Bool) :
    validate ⟨f.config, (f.registry.answerAll calls).2⟩ data contract s =
      f.validate data contract s :=
  validate_of_lookup (Registry.sound_answerAll f.registry calls)
    (fun token ht => Registry.lookup_answerAll (h token ht) f.registry) data s

def scores : Value :=
  .map [(.text "type", .text "list"), (.text "values", .list [.text "=port", .text "?bool"])]

def readings : Value :=
  .map [(.text "station", .text "md5|uuid"), (.text "scores", scores),
    (.text "chart?", .map [(.text "type", .text "base64"), (.text "mime", .text "image/png")]),
    (.text "log", .text "json; contract: \"array; contract: date|null\"")]

def readingsOf : Value :=
  .map [(.text "station", .text "5D41402ABC4B2A76B9719D911017C592"),
    (.text "scores", .list [.int 8080, .null]), (.text "log", .text "[null, \"2024-02-29\"]")]

/-- Data with a port, which is an integer, does not depend on what stands for a float. -/
theorem validate_readings :
    validate ⟨initial.config, (Registry.initial.handle (.one (.text "float") (.contract (.text
        "string; maxLen: 3")))).2⟩ readingsOf readings (some false) =
      initial.validate readingsOf readings (some false) := by
  have hl : leadsOnlyTo initial.registry (· != "float") 6 readings := by decide +kernel
  refine @validate_handle readings initial _ (fun token h hm => ?_) readingsOf (some false)
  rw [Value.text.inj (List.mem_singleton.mp hm)] at h
  exact absurd (allowed_of_reaches h hl) (by decide)

end Filter
end Covenant
