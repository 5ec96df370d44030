import Covenant.Contract.Node
import Covenant.Proofs.Entries
import Covenant.Proofs.Named
import Covenant.Proofs.Outcome
import Covenant.Proofs.Text

/-! Contracts that are written as a mapping with a type. -/

namespace Covenant

/-- The contract with a type and further entries. -/
def Entries.withType (rest : Entries) (spec : String) : Value :=
  .map ((.text "type", .text spec) :: rest)

theorem TypeExpr.read_of_not_nullable (h : read spec = .ok t) (hn : t.nullable = false) :
    nullToken ∉ t.tokens := by
  obtain ⟨source, _, h⟩ := bind_eq_ok.mp h
  dsimp only at h
  split at h
  · obtain ⟨_, _, h⟩ := bind_eq_ok.mp h
    cases h
  · split at h
    · cases h
      cases hn
    · rename_i hc
      cases h
      dsimp only at hn ⊢
      rw [hn, if_neg (by decide)]
      simpa using hc

namespace Params

/-- A name that is not among the flexible ones is spelled in one way alone. -/
theorem canonicalName_ne (hn : n ∉ flexibleNames.map (·.2)) (h : name ≠ n) :
    canonicalName name ≠ n := by
  rw [canonicalName]
  cases hf : flexibleNames.get? (onChars (fun cs => lower (cs.filter (· != '_'))) name) with
  | none => exact h
  | some m => exact fun he => hn (he ▸ List.mem_map_of_mem (Named.mem_of_get? hf))

theorem canonicalName_ne_type (h : name ≠ "type") : canonicalName name ≠ "type" :=
  canonicalName_ne (by decide) h

/-- The parameters of a contract behind one that is not given again. -/
theorem ofEntries_cons (hc : canonicalName n = n) (hn : n ∉ flexibleNames.map (·.2))
    (h : Entries.get? rest (.text n) = none) (v : Value) :
    ofEntries ((.text n, v) :: rest) = (ofEntries rest).map ((n, v) :: ·) := by
  have hfirst : ofEntries ((.text n, v) :: rest) = rest.foldlM _ [(n, v)] :=
    congrArg (fun name => rest.foldlM _ [(name, v)]) hc
  refine hfirst.trans (foldlM_map (g := ((n, v) :: ·)) (fun params e he => ?_) [])
  obtain ⟨key, w⟩ := e
  have hk := Entries.get?_eq_none.mp h _ he
  cases key with
  | text name =>
    have hne : name ≠ n := fun hne => hk (Value.equals_text_iff.mpr (congrArg Value.text hne))
    exact congrArg Except.ok (Named.put_cons_ne (canonicalName_ne hn hne).symm v params w)
  | _ => rfl

/-- The parameters of a contract behind its type. -/
theorem ofEntries_type_cons (h : Entries.get? rest (.text "type") = none) (v : Value) :
    ofEntries ((.text "type", v) :: rest) = (ofEntries rest).map (("type", v) :: ·) :=
  ofEntries_cons (by decide) (by decide) h v

end Params

namespace Node

variable {node : Node}

theorem ofContract_of_paramsOf {params : Params} (h : paramsOf contract = .ok (some params))
    (i : Bool) :
    ofContract i contract = if (params.get "type").isAbsent then .ok none else
      (TypeExpr.read (params.get "type")).map fun t => some ⟨t, params, i || isText contract⟩ := by
  simp only [ofContract, h, bind, Except.bind]
  split
  · rfl
  · cases TypeExpr.read (params.get "type") <;> rfl

/-- The parameters of a mapping with a type are its entries. -/
theorem paramsOf_typed (h : (Entries.get? entries (.text "type")).isSome) :
    paramsOf (.map entries) = (Params.ofEntries entries).map some := by
  cases entries with
  | nil => cases h
  | cons e entries =>
    rw [paramsOf, if_neg (by simpa using Option.isSome_iff_ne_none.mp h)]
    · rfl
    · simp

/-- A mapping without a type is a record. -/
theorem paramsOf_untyped (h : Entries.get? (e :: entries) (.text "type") = none) :
    paramsOf (.map (e :: entries)) = .ok (some (record (.map (e :: entries)))) := by
  rw [paramsOf, if_pos (by rw [h]; rfl)]
  simp

theorem paramsOf_type_cons (h : Entries.get? rest (.text "type") = none) (spec : Value) :
    paramsOf (.map ((.text "type", spec) :: rest)) = (Params.ofEntries rest).map fun params =>
      some (("type", spec) :: params) := by
  have hg : Entries.get? ((.text "type", spec) :: rest) (.text "type") = some spec := by
    simp [Entries.get?, Value.equals]
  rw [paramsOf_typed (by rw [hg]; rfl), Params.ofEntries_type_cons h]
  cases Params.ofEntries rest with
  | error f => rfl
  | ok params => rfl

theorem ofContract_type_cons {t : TypeExpr} (h : Entries.get? rest (.text "type") = none)
    (ha : spec.isAbsent = false) (ht : TypeExpr.read spec = .ok t) (i : Bool) :
    ofContract i (.map ((.text "type", spec) :: rest)) = (Params.ofEntries rest).map fun params =>
      some ⟨t, ("type", spec) :: params, i⟩ := by
  rw [ofContract, paramsOf_type_cons h]
  cases Params.ofEntries rest with
  | error f => rfl
  | ok params =>
    have hg : Params.get (("type", spec) :: params) "type" = spec := by
      rw [Params.get, Named.get?_cons_self, Option.getD_some]
    simp only [Except.map, bind, Except.bind, hg, ha, ht]
    cases i <;> rfl

theorem ofContract_withType {t : TypeExpr} (h : Entries.get? rest (.text "type") = none)
    (hs : spec ≠ "") (ht : TypeExpr.read (.text spec) = .ok t) (i : Bool) :
    ofContract i (rest.withType spec) = (Params.ofEntries rest).map fun params =>
      some ⟨t, ("type", .text spec) :: params, i⟩ :=
  ofContract_type_cons h (by simpa [Value.isAbsent] using hs) ht i

/-- A contract in the compact notation has the parameters that are read from it. -/
theorem paramsOf_text {params : Params} (ht : trim s.toList ≠ [])
    (h : Source.read s = .ok params) : paramsOf (.text s) = .ok (some params) := by
  have hl : s.toList.all isBlank = false := by
    rw [← Bool.not_eq_true]
    intro hl
    exact ht (trim_eq_nil_iff.mpr (List.all_eq_true.mp hl))
  simp only [paramsOf, hl, h, Bool.false_eq_true, if_false]
  rfl

/-- A contract in the compact notation that is a type alone. -/
theorem ofContract_bare {t : TypeExpr} (hb : ';' ∉ s.toList) (hs : trim s.toList ≠ [])
    (ht : TypeExpr.read (.text (onChars trim s)) = .ok t) (i : Bool) :
    ofContract i (.text s) = .ok (some ⟨t, [("type", .text (onChars trim s))], true⟩) := by
  have hn (c : Char) (hc : c ∈ s.toList) : (c != ';') = true := by
    rw [bne_iff_ne]
    exact fun he => hb (he ▸ hc)
  have hr : Source.read s = .ok [("type", .text (onChars trim s))] := by
    rw [Source.read, List.takeWhile_eq_self_iff.mpr hn, List.dropWhile_eq_nil_iff.mpr hn]
    rfl
  have ha : (Value.text (onChars trim s)).isAbsent = false := by
    rw [Value.isAbsent, beq_eq_false_iff_ne]
    intro he
    have he := congrArg String.toList he
    rw [onChars, String.toList_ofList] at he
    exact hs he
  have hg : Params.get [("type", .text (onChars trim s))] "type" = .text (onChars trim s) := rfl
  simp only [ofContract, paramsOf_text hs hr, bind, Except.bind, hg, ha, ht]
  cases i <;> rfl

theorem read_of_ofContract (h : ofContract i contract = .ok (some node)) :
    ∃ spec, TypeExpr.read spec = .ok node.type := by
  unfold ofContract at h
  obtain ⟨params?, _, h⟩ := bind_eq_ok.mp h
  cases params? with
  | none => cases h
  | some params =>
    dsimp only at h
    split at h
    · cases h
    · obtain ⟨t, ht, h⟩ := bind_eq_ok.mp h
      cases h
      exact ⟨_, ht⟩

/-- Whether the mode of a node can be read does not depend on the mode around it. -/
theorem strict_of_ok (h : node.strict ambient = .ok b) (ambient' : Bool) :
    ∃ b', node.strict ambient' = .ok b' := by
  unfold Node.strict at h ⊢
  split at h
  · exact ⟨_, rfl⟩
  · exact ⟨_, rfl⟩
  · exact ⟨_, h⟩

end Node
end Covenant
