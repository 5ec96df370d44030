import Covenant.Proofs.Filter.Frame
import Covenant.Proofs.Filter.Registered

/-! What is registered under a token is found by a contract of that type, unless the token is
another spelling of null. -/

namespace Covenant

open TypeExpr (nullToken)

/-- After a registration, a token stands for a target that was given for it, also where the
registration cannot be reported. -/
theorem Registry.exists_lookup_handle {request : Request} (h : request.entries = .ok entries)
    (hm : token ∈ entries.map (·.1)) (types : Registry) :
    ∃ target entry, (.text token, target) ∈ request.targets ∧
      Entry.ofTarget token target = .ok entry ∧
      (types.handle request).2.lookup token = .ok entry := by
  have hsome : Named.get? entries.reverse token ≠ none := by
    rw [Ne, Named.get?_eq_none_iff, not_not, List.map_reverse, List.mem_reverse]
    exact hm
  obtain ⟨entry, he⟩ := Option.ne_none_iff_exists'.mp hsome
  have hmem := List.mem_reverse.mp (Named.mem_of_get? he)
  obtain ⟨_, target, ht, hentry⟩ := Request.mem_entries h hmem
  refine ⟨target, entry, ht, hentry, ?_⟩
  simp only [handle, h, lookup, publish, Named.get?_update_reverse, he, Option.some_or]

namespace Filter

/-- Filters data by what a token stands for, a level deeper where that is a template. -/
def byEntry (types : Registry) (nested : Pass) (token : String) (strict : Bool) (params : Params)
    (data : Value) : Entry → Except Failure Result
  | .template template => do
    nested ⟨strict, template.inline, [token]⟩ data (← template.expand params)
  | .kind kind => do
    require types.sound ("Object built for type '" ++ token ++ "' is not a Validator.")
    kind.validate (delegate types nested ⟨strict, false⟩) ⟨strict, false⟩ params data

theorem attempt_of_lookup {types : Registry} (hl : types.lookup token = .ok entry)
    (nested : Pass) (ambient : Bool) (t : TypeExpr) (params : Params) (strict : Bool)
    (data : Value) :
    attempt types nested (.part ambient) ⟨t, params, false⟩ strict data token =
      byEntry types nested token strict params data entry := by
  rw [attempt, hl]
  cases entry with
  | template template => rfl
  | kind kind =>
    simp only [Registry.kind, hl, bind, Except.bind, byEntry, require]
    cases types.sound <;> rfl

/-- A registered token is read as itself, and data other than null is filtered by what is registered
under it. The other spellings of null may be registered too, but are read as null. -/
theorem validate_by_token {f : Filter} {request : Registry.Request}
    (h : request.entries = .ok entries) (hm : token ∈ entries.map (·.1)) :
    ((TypeExpr.isNull token → token = nullToken) →
      TypeExpr.read (.text token) = .ok ⟨[token], none, token == nullToken⟩ ∧
        ∃ target entry, (.text token, target) ∈ request.targets ∧
          Entry.ofTarget token target = .ok entry ∧
          ∀ data rest s, data ≠ .null → Entries.get? rest (.text "type") = none →
            validate ⟨f.config, (f.registry.handle request).2⟩ data (rest.withType token) s = (do
              let params ← Params.ofEntries rest
              let strict ← params.mode (s.getD f.config.strict)
              byEntry (f.registry.handle request).2
                (run (f.registry.handle request).2 f.config.maxDepth f.config.maxDepth) token
                strict params data entry)) ∧
      (TypeExpr.isNull token → token ≠ nullToken →
        TypeExpr.read (.text token) = .ok ⟨[nullToken], none, true⟩) := by
  obtain ⟨e, he, rfl⟩ := List.mem_map.mp hm
  obtain ⟨ht, _⟩ := Registry.Request.mem_entries h he
  have hread := TypeExpr.read_isToken ht
  refine ⟨fun hn => ?_, fun hnull _ => by rw [hread, if_pos hnull]⟩
  have hself : TypeExpr.read (.text e.1) = .ok ⟨[e.1], none, e.1 == nullToken⟩ := by
    rw [hread]
    split
    · rename_i hnull
      rw [hn hnull]
      rfl
    · rename_i hnull
      have hne : e.1 ≠ nullToken := fun he => hnull (he ▸ by decide)
      rw [beq_eq_false_iff_ne.mpr hne]
  obtain ⟨target, entry, htarget, hentry, hl⟩ := Registry.exists_lookup_handle h hm f.registry
  refine ⟨hself, target, entry, htarget, hentry, fun data rest s hd hr => ?_⟩
  have hspec : e.1 ≠ "" := fun he => ht.nonempty (by rw [he]; rfl)
  have hc (params : Params) :
      (Node.mk ⟨[e.1], none, e.1 == nullToken⟩ params false).candidates data = some [e.1] :=
    Node.candidates_of_ne_null hd _
  rw [validate_withType _ s hr hspec hself hc]
  simp only [tryAll, firstAccepted_single, attempt_of_lookup hl, Node.strict_eq_mode]

/-- Marks from one to six, one by one and in a list. -/
def marks : Registry.Request :=
  .many [(.text "mark", .contract (.text "int; min: 1; max: 6")),
    (.text "marks",
      .contract (.map [(.text "type", .text "list"), (.text "contract", .text "mark")]))]
    none

theorem validate_marks :
    validate ⟨initial.config, (Registry.initial.handle marks).2⟩ (.list [.text "7", .int 2])
        (Entries.withType [] "marks") none =
      .ok ⟨.list [.int 6, .int 2], .list [.int 6, .int 2]⟩ := by
  have h : marks.entries = .ok _ := rfl
  obtain ⟨_, target, entry, ht, he, hv⟩ :=
    (@validate_by_token _ "marks" initial marks h (by decide)).1 (fun hn => absurd hn (by decide))
  have htarget : target = .contract (.map [(.text "type", .text "list"),
      (.text "contract", .text "mark")]) := by
    simpa [marks, Registry.Request.targets] using ht
  cases htarget
  cases he
  rw [show initial.registry = Registry.initial from rfl] at hv
  rw [hv _ [] none (by simp) rfl]
  decide +kernel

/-- An integer type may be registered under a capitalized null, but is not found by that name. -/
theorem validate_capital_null :
    (withToken "Null" (.text "int")).registry.Registers "Null" (.text "int") ∧
      TypeExpr.read (.text "Null") = .ok ⟨[nullToken], none, true⟩ ∧
      (withToken "Null" (.text "int")).validate (.int 5) (Entries.withType [] "Null") none =
        .error (.rejected "Data is not null.") :=
  ⟨⟨by decide, _, rfl, rfl⟩, by decide, by decide +kernel⟩

end Filter
end Covenant
