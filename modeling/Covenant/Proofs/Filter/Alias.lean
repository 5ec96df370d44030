import Covenant.Proofs.Filter.Depth
import Covenant.Proofs.Filter.Union
import Covenant.Proofs.Registry.Table
import Covenant.Proofs.Template

/-! An alias stands for its template, with the parameters of the contract that names it laid over. -/

namespace Covenant

/-- The mode that parameters ask for, else the mode around them. -/
def Params.mode (params : Params) (ambient : Bool) : Except Failure Bool :=
  match params.get "strict" with
  | .null => .ok ambient
  | flag => Flag.ofValue flag "strict"

/-- Parameters laid over a template. Those that are null are left out, and so is the mode that they
ask for; the type is that of the template. -/
def Params.over (params template : Params) : Params :=
  let given := params.filter fun p => p.1 != "strict" && !p.2.isNull
  (template.update given).put "type" (template.get "type")

namespace Entry

theorem readToken_eq_ok (h : readToken (.text token) = .ok token') :
    token' = token ∧ trim token.toList = token.toList ∧ token.toList ≠ [] ∧
      ∀ c ∈ token.toList, ¬isReserved c := by
  obtain ⟨he, ht⟩ := isToken_of_readToken h
  cases he
  exact ⟨rfl, ht.trimmed, ht.nonempty, ht.unreserved⟩

/-- A token that may be registered stands in a union as it is written. -/
theorem IsToken.isMember (h : IsToken token) : TypeExpr.IsMember token := by
  constructor
  · intro hbar
    exact h.unreserved '|' hbar (by decide)
  · rw [h.trimmed]
    intro hm
    obtain ⟨c, cs, hc⟩ := List.exists_cons_of_ne_nil h.nonempty
    have hres := h.unreserved c (by simp [hc])
    rw [hc] at hm
    simp only [List.head?_cons, List.mem_cons, Option.some.injEq, List.not_mem_nil, or_false,
      reduceCtorEq, false_or] at hm
    rcases hm with rfl | rfl | rfl
    all_goals exact hres (by decide)

/-- A mapping with a type is registered as it is, under canonical names. -/
theorem ofTarget_typed {template : Params} (ht : Params.ofEntries entries = .ok template)
    (hi : (template.get "type").isTrue) :
    ofTarget token (.contract (.map entries)) = .ok (.template ⟨template.toEntries, false⟩) := by
  simp only [ofTarget, Template.ofEntries, ht, hi, bind, Except.bind, if_true]
  rfl

end Entry

/-- A token that may be registered is read as it is written, but for the spellings of null. -/
theorem TypeExpr.read_isToken (h : Entry.IsToken token) :
    read (.text token) =
      .ok (if isNull token then ⟨[nullToken], none, true⟩ else ⟨[token], none, false⟩) := by
  have ht : onChars trim token = token := by rw [onChars, h.trimmed, String.ofList_toList]
  have hm : ∀ t ∈ [token], IsMember t := List.forall_mem_singleton.mpr h.isMember
  have hs : trim token.toList = trim (union none false [token]).toList := by
    simp [union, modeMarker, nullMarker, join]
  rw [read_union none false hm (by simp) hs, List.map_singleton, ofMember, ht]
  by_cases hnull : isNull token
  · rw [if_pos hnull, if_pos hnull, if_pos (by decide)]
  · have hne : nullToken ≠ token := by
      rintro rfl
      exact hnull (by decide)
    rw [if_neg hnull, if_neg hnull, if_neg (by simpa using hne)]
    rfl

namespace Registry

variable {types types' : Registry}

/-- A contract is registered under a token. -/
structure Registers (types : Registry) (token : String) (contract : Value) : Prop where
  readable : Entry.readToken (.text token) = .ok token
  found : ∃ entry, Entry.ofTarget token (.contract contract) = .ok entry ∧
    types.lookup token = .ok entry

theorem register_eq_ok (h : types.register (.one (.text token) target) = .ok types') :
    Entry.readToken (.text token) = .ok token ∧ ∃ entry, Entry.ofTarget token target = .ok entry ∧
      types' = { types with table := types.table.put token entry } := by
  obtain ⟨entries, he, _, rfl⟩ := register_eq_ok_iff.mp h
  rw [Request.entries, entriesOf, List.mapM_cons, List.mapM_nil] at he
  obtain ⟨named, hnamed, he⟩ := bind_eq_ok.mp he
  obtain ⟨token', ht, hrest⟩ := bind_eq_ok.mp hnamed
  obtain ⟨entry, hentry, hpair⟩ := bind_eq_ok.mp hrest
  cases hpair
  cases he
  obtain rfl : token' = token := (Entry.readToken_eq_ok ht).1
  exact ⟨ht, entry, hentry, rfl⟩

theorem registers_of_register
    (h : types.register (.one (.text token) (.contract contract)) = .ok types') :
    types'.Registers token contract := by
  obtain ⟨ht, entry, he, rfl⟩ := register_eq_ok h
  refine ⟨ht, entry, he, ?_⟩
  rw [lookup, Named.get?_put_self]

/-- What is registered under a token stays so while others are registered. -/
theorem Registers.register (h : types.Registers token contract)
    (hr : types.register (.one (.text other) target) = .ok types') (hne : other ≠ token) :
    types'.Registers token contract := by
  obtain ⟨_, entry', _, rfl⟩ := register_eq_ok hr
  obtain ⟨entry, he, hl⟩ := h.found
  refine ⟨h.readable, entry, he, ?_⟩
  rw [lookup, Named.get?_put_ne hne]
  exact hl

end Registry

/-- A parameter that is not among the entries of a contract is not given. -/
theorem Params.notMem_of_get?_eq_none (hc : canonicalName n = n)
    (hn : n ∉ flexibleNames.map (·.2)) (h : Entries.get? rest (.text n) = none)
    (hp : Params.ofEntries rest = .ok params) : n ∉ params.map (·.1) := by
  have hcons : Params.ofEntries ((.text n, .null) :: rest) = .ok ((n, .null) :: params) := by
    rw [Params.ofEntries_cons hc hn h, hp]
    rfl
  exact (List.nodup_cons.mp (Params.canonical_of_ofEntries hcons).nodup).1

/-- The parameters of a contract do not give its type again. -/
theorem Params.type_notMem (h : Entries.get? rest (.text "type") = none)
    (hp : Params.ofEntries rest = .ok params) : "type" ∉ params.map (·.1) :=
  notMem_of_get?_eq_none (by decide) (by decide) h hp

/-- A contract that names a template is expanded to the template under its own parameters. -/
theorem Template.expand_typed {template : Params} (hi : (template.get "type").isTrue)
    (hc : params.Canonical) (hp : "type" ∉ params.map (·.1)) (inline : Bool) :
    expand ⟨template.toEntries, inline⟩ params = .ok (params.over template).toValue := by
  have ht := Params.get?_of_get (Value.isAbsent_of_isTrue hi)
  have hkept := get?_type_update_additions hc template
  rw [additions_of_notMem hp, ht] at hkept
  rw [expand_toEntries ht, additions_of_notMem hp, Params.over, Named.put_of_get? hkept]

theorem Node.strict_eq_mode (ts : List String) (nullable : Bool) (params : Params) (i ambient : Bool) :
    Node.strict ⟨⟨ts, none, nullable⟩, params, i⟩ ambient = params.mode ambient := by
  rw [strict, Params.mode]
  cases params.get "strict" <;> rfl

namespace Filter

open TypeExpr (nullToken)

/-- A token that may be registered is read as a type by itself, and tried on the data. -/
theorem read_token (h : Entry.readToken (.text token) = .ok token)
    (hn : TypeExpr.isNull token → token = nullToken ∧ data ≠ .null) :
    ∃ nullable, TypeExpr.read (.text token) = .ok ⟨[token], none, nullable⟩ ∧
      ∀ params, (Node.mk ⟨[token], none, nullable⟩ params false).candidates data = some [token] := by
  have hr := TypeExpr.read_isToken (Entry.isToken_of_readToken h).2
  by_cases hnull : TypeExpr.isNull token
  · obtain ⟨rfl, hd⟩ := hn hnull
    rw [if_pos hnull] at hr
    exact ⟨true, hr, fun params => Node.candidates_of_ne_null hd _⟩
  · rw [if_neg hnull] at hr
    refine ⟨false, hr, fun params => Node.candidates_of_no_null ?_ rfl data⟩
    rw [List.mem_singleton]
    rintro rfl
    exact hnull (by decide)

/-- Behind an alias, a contract is filtered as it is by itself, with a level less to go. -/
theorem run_expanded (types : Registry) (limit : Nat) (strict : Bool) (token : String)
    (data contract : Value) :
    Refines (fun e => e = tooDeep limit ∨ e = aliasCycle token)
      (run types limit limit ⟨strict, false, [token]⟩ data contract)
      (run types limit (limit + 1) (.part strict) data contract) := by
  have hscope : Scope.Refines (fun e => e = tooDeep limit ∨ e = aliasCycle token)
      ⟨strict, false, [token]⟩ (.part strict) := by
    refine ⟨rfl, rfl, List.nil_subset _, fun t ht _ => ?_⟩
    exact .inr (congrArg aliasCycle (List.mem_singleton.mp ht))
  apply run_refines ?_ (.inl rfl) limit (Nat.le_succ limit) _ _ hscope
  rintro e (rfl | rfl)
  · exact Failure.malformed_isFinal _
  · exact Failure.malformed_isFinal _

/-- An alias stands for its template with the parameters of its contract laid over, in the mode of
that contract. It may only end otherwise where it goes too deep, or where it meets itself again. -/
theorem validate_alias {f : Filter} (h : f.registry.Registers token (.map entries))
    (ht : Params.ofEntries entries = .ok template) (hi : (template.get "type").isTrue)
    (hr : Entries.get? rest (.text "type") = none)
    (hn : TypeExpr.isNull token → token = nullToken ∧ data ≠ .null) (s : Option Bool) :
    f.validate data (rest.withType token) s = (do
        let params ← Params.ofEntries rest
        let strict ← params.mode (s.getD f.config.strict)
        f.validate data (params.over template).toValue (some strict)) ∨
      f.validate data (rest.withType token) s = .error (tooDeep f.config.maxDepth) ∨
      f.validate data (rest.withType token) s = .error (aliasCycle token) := by
  obtain ⟨nullable, hread, hcand⟩ := read_token h.readable hn
  obtain ⟨_, _, hne, _⟩ := Entry.readToken_eq_ok h.readable
  have hspec : token ≠ "" := fun he => hne (by rw [he]; rfl)
  rw [validate_withType f s hr hspec hread hcand]
  cases hp : Params.ofEntries rest with
  | error e => exact .inl rfl
  | ok params =>
    simp only [bind, Except.bind, tryAll, Node.strict_eq_mode]
    cases hm : params.mode (s.getD f.config.strict) with
    | error e => exact .inl rfl
    | ok strict =>
      obtain ⟨entry, he, hl⟩ := h.found
      cases (Entry.ofTarget_typed ht hi).symm.trans he
      have hx := Template.expand_typed hi (Params.canonical_of_ofEntries hp)
        (Params.type_notMem hr hp) false
      dsimp only
      rw [firstAccepted_single, attempt_template hl (by simp [Scope.part]) hx]
      -- Behind the alias one level fewer is left, and the alias itself must not come again.
      rcases run_expanded f.registry f.config.maxDepth strict token data
        (params.over template).toValue with ⟨e, rfl | rfl, hout⟩ | hout
      · exact .inr (.inl hout)
      · exact .inr (.inr hout)
      · exact .inl hout

/-- A filter with percentages. -/
def percents : Filter :=
  { initial with registry.table := Registry.builtin.put "percent" (.template
      ⟨[(.text "type", .text "int"), (.text "min", .int 0), (.text "max", .int 100)], false⟩) }

theorem validate_percent :
    percents.validate (.text "70") (Entries.withType [(.text "max", .int 50)] "percent") none =
      percents.validate (.text "70")
        (.map [(.text "type", .text "int"), (.text "min", .int 0), (.text "max", .int 50)])
        (some false) := by
  have h : percents.registry.Registers "percent"
      (.map [(.text "type", .text "int"), (.text "min", .int 0), (.text "max", .int 100)]) :=
    ⟨by decide, _, rfl, rfl⟩
  have hr : Entries.get? [(.text "max", .int 50)] (.text "type") = none := rfl
  have hv : percents.validate (.text "70") (Entries.withType [(.text "max", .int 50)] "percent")
      none = .ok ⟨.int 50, .int 50⟩ := by
    decide +kernel
  rcases validate_alias h rfl (by decide) hr (fun hn => absurd hn (by decide)) none with
    he | he | he
  · exact he
  · rw [hv] at he
    cases he
  · rw [hv] at he
    cases he

/-- A filter with a type of its own for the name of null. -/
def nullAsInt : Filter :=
  { initial with registry.table := Registry.builtin.put "null" (.template
      ⟨[(.text "type", .text "int")], false⟩) }

/-- Null is let through by its name, whatever is registered under that. -/
theorem validate_null_as_int :
    nullAsInt.registry.Registers "null" (.map [(.text "type", .text "int")]) ∧
      nullAsInt.validate .null (Entries.withType [] "null") none = .ok ⟨.null, .null⟩ ∧
      nullAsInt.validate .null (Params.over [] [("type", .text "int")]).toValue (some false) =
        .error (.rejected "Data doesn't respect contract (can't cast to int).") :=
  ⟨⟨by decide, _, rfl, rfl⟩, by decide +kernel, by decide +kernel⟩

end Filter
end Covenant
