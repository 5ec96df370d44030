import Covenant.Proofs.Filter.Step
import Covenant.Proofs.Value.Equality

/-! A union tries its members from left to right, and null among them only for null. -/

namespace Covenant

namespace Node

theorem strict_type_cons {t t' : TypeExpr} (h : t.mode = t'.mode) (v : Value) (params : Params)
    (i ambient : Bool) :
    strict ⟨t, ("type", v) :: params, i⟩ ambient = strict ⟨t', params, i⟩ ambient := by
  have hs : Params.get (("type", v) :: params) "strict" = params.get "strict" :=
    Params.get_cons_ne (by decide) params v
  simp only [strict, h, hs]

end Node

namespace Filter

variable {types : Registry} {each : String → Except Failure Result}

/-- The type and the mode that a contract gives do not matter once they have been read. -/
theorem attempt_cons (hn : name = "type" ∨ name = "strict") {t : TypeExpr} (t' : TypeExpr)
    (v : Value) (params : Params) (i : Bool) :
    attempt types nested scope ⟨t, (name, v) :: params, i⟩ strict data =
      attempt types nested scope ⟨t', params, i⟩ strict data := by
  funext token
  have ha : Template.additions ((name, v) :: params) = Template.additions params := by
    rcases hn with rfl | rfl <;> rfl
  have hp (kind : Kind) : name ∉ kind.parameters := by
    rcases hn with rfl | rfl
    · exact kind.type_notMem_parameters
    · exact kind.strict_notMem_parameters
  have hd : name ≠ "default" := by
    rcases hn with rfl | rfl <;> decide
  simp only [attempt, Kind.validate_cons (hp _) hd, Template.expand, ha]

theorem attempt_type_cons {t : TypeExpr} (t' : TypeExpr) (v : Value) (params : Params) (i : Bool) :
    attempt types nested scope ⟨t, ("type", v) :: params, i⟩ strict data =
      attempt types nested scope ⟨t', params, i⟩ strict data :=
  attempt_cons (.inl rfl) t' v params i

theorem firstAccepted_of_ne_nil (h : bs ≠ []) (message message' : String) :
    firstAccepted each message bs = firstAccepted each message' bs := by
  cases bs with
  | nil => exact absurd rfl h
  | cons b bs => rfl

theorem firstAccepted_append (hb : bs ≠ []) (message : String) (as : List String) :
    firstAccepted each message (as ++ bs) =
      match firstAccepted each message as with
      | .error (.rejected _) => firstAccepted each message bs
      | outcome => outcome := by
  induction as generalizing message with
  | nil => rfl
  | cons a as ih =>
    rw [List.cons_append, firstAccepted, firstAccepted]
    cases each a with
    | ok r => rfl
    | error f =>
      cases f with
      | rejected m =>
        dsimp only
        rw [ih m, firstAccepted_of_ne_nil hb m message]
      | malformed m => rfl
      | crashed fault => rfl

/-- Filters data by the types of a union in turn, all under the same parameters. -/
def tryAll (types : Registry) (nested : Pass) (ambient : Bool) (mode : Option Bool)
    (params : Params) (data : Value) (tokens : List String) : Except Failure Result := do
  let node : Node := ⟨⟨[], mode, false⟩, params, false⟩
  let strict ← node.strict ambient
  firstAccepted (attempt types nested (.part ambient) node strict data) noTypeLeft tokens

theorem tryAll_append (hb : bs ≠ []) (as : List String) :
    tryAll types nested ambient mode params data (as ++ bs) =
      match tryAll types nested ambient mode params data as with
      | .error (.rejected _) => tryAll types nested ambient mode params data bs
      | outcome => outcome := by
  simp only [tryAll]
  cases Node.strict ⟨⟨[], mode, false⟩, params, false⟩ ambient with
  | ok strict => exact firstAccepted_append hb _ as
  | error f => cases f <;> rfl

/-- A contract with a type is filtered by the types that come into question for the data. -/
theorem validate_withType (f : Filter) {t : TypeExpr} (s : Option Bool)
    (h : Entries.get? rest (.text "type") = none) (hs : spec ≠ "")
    (ht : TypeExpr.read (.text spec) = .ok t)
    (hc : ∀ params, (Node.mk t params false).candidates data = some tokens) :
    f.validate data (rest.withType spec) s = (do
      tryAll f.registry (run f.registry f.config.maxDepth f.config.maxDepth)
        (s.getD f.config.strict) t.mode (← Params.ofEntries rest) data tokens) := by
  rw [validate, run, step]
  simp only [Scope.part, Node.ofContract_withType h hs ht false]
  cases Params.ofEntries rest with
  | error e => rfl
  | ok params =>
    have hm := Node.strict_type_cons (show t.mode = (TypeExpr.mk [] t.mode false).mode from rfl)
      (.text spec) params false (s.getD f.config.strict)
    simp only [Except.map, bind, Except.bind, hc, attempt_type_cons ⟨[], t.mode, false⟩, hm, tryAll,
      Scope.part]

open TypeExpr (union IsMember ofMember nullToken)

variable {ts : List String} {marker : Option Bool} {marked : Bool}

theorem validate_union_of_no_null (f : Filter) (s : Option Bool)
    (h : Entries.get? rest (.text "type") = none) (hm : ∀ t ∈ ts, IsMember t)
    (hn : ∀ t ∈ ts, ofMember t ≠ nullToken) (hne : ts ≠ []) :
    f.validate data (rest.withType (union marker false ts)) s = (do
      tryAll f.registry (run f.registry f.config.maxDepth f.config.maxDepth)
        (s.getD f.config.strict) marker (← Params.ofEntries rest) data (ts.map ofMember)) := by
  have hc : nullToken ∉ ts.map ofMember := by
    intro hc
    obtain ⟨t, ht, he⟩ := List.mem_map.mp hc
    exact hn t ht he
  have hr := TypeExpr.read_union marker false hm hne rfl
  rw [if_neg (by simpa using hc)] at hr
  exact validate_withType f s h (TypeExpr.union_ne_empty hm hne) hr fun params =>
    Node.candidates_of_no_null hc rfl data

theorem validate_union_of_data (f : Filter) (s : Option Bool)
    (h : Entries.get? rest (.text "type") = none) (hm : ∀ t ∈ ts, IsMember t)
    (hd : data ≠ .null) (hn : ts.filter (ofMember · != nullToken) ≠ []) :
    f.validate data (rest.withType (union marker marked ts)) s = (do
      tryAll f.registry (run f.registry f.config.maxDepth f.config.maxDepth)
        (s.getD f.config.strict) marker (← Params.ofEntries rest) data
        ((ts.filter (ofMember · != nullToken)).map ofMember)) := by
  have hne : ts ≠ [] := fun he => hn (by rw [he]; rfl)
  have hf : (ts.map ofMember).filter (· != nullToken) =
      (ts.filter (ofMember · != nullToken)).map ofMember := by
    simp only [List.filter_map, Function.comp_def]
  have hc {t : TypeExpr} (ht : t.tokens.filter (· != nullToken) =
      (ts.filter (ofMember · != nullToken)).map ofMember) (params : Params) :
      (Node.mk t params false).candidates data =
        some ((ts.filter (ofMember · != nullToken)).map ofMember) := by
    have hne' : (Node.mk t params false).members ≠ [] := by
      rw [Node.members, ht]
      simpa using hn
    rw [Node.candidates_of_data hd hne', Node.members, ht]
  have hr := TypeExpr.read_union marker marked hm hne rfl
  split at hr
  · exact validate_withType f s h (TypeExpr.union_ne_empty hm hne) hr (hc hf)
  · refine validate_withType f s h (TypeExpr.union_ne_empty hm hne) hr (hc ?_)
    rw [TypeExpr.filter_marked, hf]

/-- A union ends as its first part does, unless that rejects the data: then it ends as the rest of
it does. For data other than null, null may be left out of a union, or put in. -/
theorem validate_union (h : Entries.get? rest (.text "type") = none) (f : Filter) (data : Value)
    (s : Option Bool) :
    (∀ marker as bs, as ≠ [] → bs ≠ [] →
      (∀ t ∈ as ++ bs, IsMember t ∧ ofMember t ≠ nullToken) →
      f.validate data (rest.withType (union marker false (as ++ bs))) s =
        match f.validate data (rest.withType (union marker false as)) s with
        | .error (.rejected _) => f.validate data (rest.withType (union marker false bs)) s
        | outcome => outcome) ∧
    (data ≠ .null → ∀ marker q q' ts ts',
      (∀ t ∈ ts ++ ts', IsMember t) →
      ts.filter (ofMember · != nullToken) ≠ [] →
      ts.filter (ofMember · != nullToken) = ts'.filter (ofMember · != nullToken) →
      f.validate data (rest.withType (union marker q ts)) s =
        f.validate data (rest.withType (union marker q' ts')) s) := by
  constructor
  · intro marker as bs ha hb hm
    have hab : as ++ bs ≠ [] := by simp [ha]
    have hma (t : String) (ht : t ∈ as) := hm t (List.mem_append_left bs ht)
    have hmb (t : String) (ht : t ∈ bs) := hm t (List.mem_append_right as ht)
    rw [validate_union_of_no_null f s h (fun t ht => (hm t ht).1) (fun t ht => (hm t ht).2) hab,
      validate_union_of_no_null f s h (fun t ht => (hma t ht).1) (fun t ht => (hma t ht).2) ha,
      validate_union_of_no_null f s h (fun t ht => (hmb t ht).1) (fun t ht => (hmb t ht).2) hb]
    cases Params.ofEntries rest with
    | ok params =>
      rw [List.map_append]
      exact tryAll_append (by simpa using hb) _
    | error e => cases e <;> rfl
  · intro hd marker q q' ts ts' hm hn he
    have hmt (t : String) (ht : t ∈ ts) := hm t (List.mem_append_left ts' ht)
    have hmt' (t : String) (ht : t ∈ ts') := hm t (List.mem_append_right ts ht)
    rw [validate_union_of_data f s h hmt hd hn, validate_union_of_data f s h hmt' hd (he ▸ hn), he]

theorem validate_int_or_string :
    initial.validate (.text "one")
        (Entries.withType [(.text "max", .int 7)] (union none false ["int", "string"])) none =
          .ok ⟨.text "one", .text "one"⟩ ∧
      initial.validate (.text "one")
        (Entries.withType [(.text "max", .int 7)] (union none true ["int", "null", "string"]))
          none = .ok ⟨.text "one", .text "one"⟩ := by
  have hg : Entries.get? [(.text "max", .int 7)] (.text "type") = none := rfl
  have h := validate_union hg initial (.text "one") none
  have hu := (h.1 none ["int"] ["string"] (by decide) (by decide) (by decide)).trans
    (show _ = .ok ⟨.text "one", .text "one"⟩ by decide)
  have hn := h.2 (by decide) none true false ["int", "null", "string"] ["int", "string"]
    (by decide) (by decide +kernel) (by decide +kernel)
  exact ⟨hu, hn.trans hu⟩

end Filter
end Covenant
