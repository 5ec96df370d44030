import Covenant.Proofs.Filter.Alias
import Covenant.Proofs.Filter.Frame

/-! A contract is the same under a token as by itself, if it has a type. -/

namespace Covenant

/-- The contract is read with a type, as a record is that has none written. -/
def Node.IsTyped (contract : Value) : Prop :=
  ∃ params, paramsOf contract = .ok (some params) ∧ (params.get "type").isTrue

/-- A contract with a type is kept as it is read. -/
theorem Entry.ofTarget_of_paramsOf (h : ofTarget token (.contract contract) = .ok entry)
    (hp : Node.paramsOf contract = .ok (some params)) (ht : (params.get "type").isTrue) :
    entry = .template ⟨params.toEntries, Node.isText contract⟩ := by
  cases contract with
  | text s =>
    rw [Node.paramsOf] at hp
    split at hp
    · cases hp
    · obtain ⟨read, hread, hp⟩ := bind_eq_ok.mp hp
      cases hp
      obtain ⟨read', hread', h⟩ := bind_eq_ok.mp h
      cases hread.symm.trans hread'
      have hc := Source.canonical_of_read hread
      simp only [Template.ofEntries, hc.ofEntries_toEntries, bind, Except.bind, if_pos ht] at h
      cases h
      rfl
  | list items =>
    cases hp
    cases h
    rfl
  | tuple items =>
    cases hp
    cases h
    rfl
  | map entries =>
    cases entries with
    | nil => cases hp
    | cons e entries =>
      rw [Node.paramsOf] at hp
      · split at hp
        · rename_i hn
          cases hp
          obtain ⟨template, hx, h⟩ := bind_eq_ok.mp h
          obtain ⟨read, hread, hx⟩ := bind_eq_ok.mp hx
          cases h
          have hm := Params.type_notMem (Option.isNone_iff_eq_none.mp hn) hread
          have hf : (Params.get read "type").isTrue = false := by
            rw [Params.get, Named.get?_eq_none_iff.mpr hm]
            rfl
          rw [if_neg (by rw [hf]; decide)] at hx
          cases hx
          rfl
        · obtain ⟨read, hread, hp⟩ := bind_eq_ok.mp hp
          cases hp
          cases (ofTarget_typed hread ht).symm.trans h
          rfl
      · simp
  | null => cases hp
  | _ =>
    obtain ⟨_, _, hp⟩ := bind_eq_ok.mp hp
    cases hp

theorem Node.ofContract_congr {other : Value} (hp : paramsOf contract = paramsOf other)
    (hi : (i || isText contract) = (i' || isText other)) :
    ofContract i contract = ofContract i' other := by
  rw [ofContract, ofContract, hp, hi]

namespace Filter

/-- Contracts that are read alike are filtered alike. -/
theorem run_congr {other : Value} (h : Node.ofContract i contract = Node.ofContract i' other)
    (types : Registry) (limit levels : Nat) (strict : Bool) (expanded : List String)
    (data : Value) :
    run types limit levels ⟨strict, i, expanded⟩ data contract =
      run types limit levels ⟨strict, i', expanded⟩ data other := by
  cases levels with
  | zero => rfl
  | succ levels =>
    rw [run, step, step]
    dsimp only
    rw [h]
    rfl

/-- By the token of a contract, data is filtered by what was read of the contract. -/
theorem validate_token {f : Filter} (h : f.registry.Registers token contract)
    (hp : Node.paramsOf contract = .ok (some params)) (ht : (params.get "type").isTrue)
    (hn : TypeExpr.isNull token → token = TypeExpr.nullToken ∧ data ≠ .null) (s : Option Bool) :
    f.validate data (Entries.withType [] token) s =
      run f.registry f.config.maxDepth f.config.maxDepth
        ⟨s.getD f.config.strict, Node.isText contract, [token]⟩ data params.toValue := by
  obtain ⟨entry, he, hl⟩ := h.found
  cases Entry.ofTarget_of_paramsOf he hp ht
  have hover : Params.over [] params = params :=
    Named.put_of_get? (Params.get?_of_get (Value.isAbsent_of_isTrue ht))
  have hx := Template.expand_typed ht .nil List.not_mem_nil (Node.isText contract)
  rw [hover] at hx
  obtain ⟨nullable, hread, hcand⟩ := read_token h.readable hn
  obtain ⟨_, _, hne, _⟩ := Entry.readToken_eq_ok h.readable
  have hspec : token ≠ "" := fun he => hne (by rw [he]; rfl)
  rw [validate_withType f s rfl hspec hread hcand]
  show firstAccepted _ noTypeLeft [token] = _
  rw [firstAccepted_single, attempt_template hl (by simp [Scope.part]) hx]
  rfl

/-- Data is filtered by the token of a contract as by the contract itself, with a level less to go.
The contract has a type and does not lead to the token. -/
theorem validate_registered {f : Filter} (h : f.registry.Registers token contract)
    (ht : Node.IsTyped contract) (hfresh : ¬Reaches f.registry contract token)
    (hn : TypeExpr.isNull token → token = TypeExpr.nullToken ∧ data ≠ .null) (s : Option Bool) :
    f.validate data (Entries.withType [] token) s = f.validate data contract s ∨
      f.validate data (Entries.withType [] token) s = .error (tooDeep f.config.maxDepth) := by
  obtain ⟨params, hp, ht⟩ := ht
  have hread : Node.ofContract (Node.isText contract) params.toValue =
      Node.ofContract false contract := by
    have hg := Params.get?_of_get (Value.isAbsent_of_isTrue ht)
    have hkept := Node.paramsOf_toValue (Node.canonical_of_paramsOf hp) hg
    exact Node.ofContract_congr (hkept.trans hp.symm) (Bool.or_comm _ _)
  rw [validate_token h hp ht hn, run_congr hread]
  have hm : Meets (· = tooDeep f.config.maxDepth) f.registry f.registry [token] [] contract := by
    refine ⟨fun _ _ => rfl, List.nil_subset _, fun other hr hmem _ => ?_⟩
    exact absurd (List.mem_singleton.mp hmem ▸ hr) hfresh
  have hfollows : Pass.Follows (· = tooDeep f.config.maxDepth) f.registry f.registry
      (run f.registry f.config.maxDepth f.config.maxDepth)
      (run f.registry f.config.maxDepth (f.config.maxDepth + 1)) :=
    run_follows (by rintro _ rfl; exact Failure.malformed_isFinal _) rfl (Nat.le_succ _) (.inl rfl)
  rcases hfollows (s.getD f.config.strict) false _ _ _ hm data with ⟨_, rfl, he⟩ | he
  · exact .inr he
  · exact .inl he

/-- A filter with what is registered under a token. -/
def withToken (token : String) (contract : Value) : Filter :=
  ⟨initial.config, (Registry.initial.handle (.one (.text token) (.contract contract))).2⟩

/-- A day or an integer, absent unless it is given. -/
def due : Value := .text "=?date|int; default: null"

theorem validate_due :
    (withToken "due" due).validate (.text "2024-02-29") (Entries.withType [] "due") none =
      (withToken "due" due).validate (.text "2024-02-29") due none := by
  have h : (withToken "due" due).registry.Registers "due" due := ⟨by decide, _, rfl, rfl⟩
  have ht : Node.IsTyped due := ⟨_, rfl, by decide⟩
  have hl : leadsOnlyTo (withToken "due" due).registry (· != "due") 2 due := by decide
  have hfresh : ¬Reaches (withToken "due" due).registry due "due" := fun hr =>
    absurd (allowed_of_reaches hr hl) (by decide)
  rcases validate_registered h ht hfresh (fun hn => absurd hn (by decide)) none with he | he
  · exact he
  · exact absurd he (by decide +kernel)

/-- Without a type, a contract lets all data through, while its token is for records alone. -/
theorem validate_blank :
    (withToken "blank" (.text "")).registry.Registers "blank" (.text "") ∧
      (withToken "blank" (.text "")).validate (.int 5) (.text "") none = .ok ⟨.int 5, .null⟩ ∧
      (withToken "blank" (.text "")).validate (.int 5) (Entries.withType [] "blank") none =
        .error (.rejected "Data doesn't respect contract (not an associative array).") :=
  ⟨⟨by decide, _, rfl, rfl⟩, by rfl, by rfl⟩

end Filter
end Covenant
