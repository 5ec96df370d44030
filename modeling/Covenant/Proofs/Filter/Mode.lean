import Covenant.Proofs.Contract.TypeExpr
import Covenant.Proofs.Filter.Alias

/-! A marker, a parameter and the call that sets the mode all mean the same, and the mode around a
contract that has one of its own does not matter. -/

namespace Covenant

namespace Node

variable {node : Node}

/-- The node has a mode of its own, by a marker or by a parameter. -/
def SetsMode (node : Node) : Prop := node.type.mode ≠ none ∨ node.params.get "strict" ≠ .null

theorem SetsMode.strict_eq (h : node.SetsMode) (ambient ambient' : Bool) :
    node.strict ambient = node.strict ambient' := by
  unfold strict
  split
  · rfl
  · rename_i hm hs
    exact absurd h (not_or.mpr ⟨not_not.mpr hm, not_not.mpr hs⟩)
  · rfl

theorem strict_of_mode (h : node.type.mode = some b) (ambient : Bool) :
    node.strict ambient = .ok b := by
  simp only [strict, h]

theorem strict_of_flag (h : node.type.mode = none) (hs : node.params.get "strict" = .bool b)
    (ambient : Bool) : node.strict ambient = .ok b := by
  simp only [strict, h, hs, Flag.ofValue]

theorem strict_of_none (h : node.type.mode = none) (hs : node.params.get "strict" = .null)
    (ambient : Bool) : node.strict ambient = .ok ambient := by
  simp only [strict, h, hs]

/-- The types that data is tried against depend on the default, and on no other parameter. -/
theorem candidates_cons {t t' : TypeExpr} (ht : t.tokens = t'.tokens)
    (hn : t.nullable = t'.nullable) (hname : name ≠ "default") (v : Value) (params : Params)
    (i : Bool) (data : Value) :
    candidates ⟨t, (name, v) :: params, i⟩ data = candidates ⟨t', params, i⟩ data := by
  have hd : Params.get ((name, v) :: params) "default" = params.get "default" :=
    Params.get_cons_ne hname params v
  simp only [candidates, nullCandidates, defaultsToNull, members, hd, ht, hn]

end Node

namespace Filter

variable {node : Node}

/-- What comes of data by a contract with a mode of its own does not depend on the mode around it,
and that holds of all that is nested in the contract. -/
theorem run_setsMode (hc : Node.ofContract i contract = .ok (some node)) (hm : node.SetsMode)
    (types : Registry) (limit levels : Nat) (expanded : List String) (data : Value)
    (ambient ambient' : Bool) :
    run types limit levels ⟨ambient, i, expanded⟩ data contract =
      run types limit levels ⟨ambient', i, expanded⟩ data contract := by
  cases levels with
  | zero => rfl
  | succ levels =>
    exact step_congr hc hc (hm.strict_eq ambient ambient') rfl fun _ _ _ _ _ _ => rfl

theorem step_of_error {types : Registry} {nested : Pass} {scope : Scope}
    (hc : Node.ofContract scope.inline contract = .error e) :
    step types nested scope data contract = .error e := by
  simp only [step, hc, bind, Except.bind]

section Typed

variable {f : Filter} {t : TypeExpr} (ht : TypeExpr.read spec = .ok t) (hm : t.mode = none)
  (h : Entries.get? rest (.text "type") = none) (hs : Entries.get? rest (.text "strict") = none)
include ht hm h hs

omit ht h in
/-- Without a marker and a parameter for the mode, the mode around a contract counts. -/
theorem strict_of_typed (hp : Params.ofEntries rest = .ok params) (i ambient : Bool) :
    Node.strict ⟨t, ("type", spec) :: params, i⟩ ambient = .ok ambient := by
  have hmem := Params.notMem_of_get?_eq_none (by decide) (by decide) hs hp
  refine Node.strict_of_none hm ?_ ambient
  rw [Params.get_cons_ne (by decide), Params.get, Named.get?_eq_none_iff.mpr hmem]
  rfl

theorem validate_by_marker (data : Value) (mode ambient : Bool) (s : Option Bool) :
    validate { f with config.strict := ambient } data
        (.map ((.text "type", TypeExpr.marked mode spec) :: rest)) s =
      f.validate data (.map ((.text "type", spec) :: rest)) (some mode) := by
  have ht' := TypeExpr.read_marked ht hm mode
  have hplain := Node.ofContract_type_cons h (TypeExpr.isAbsent_of_read ht) ht false
  have hmark := Node.ofContract_type_cons h (TypeExpr.isAbsent_of_read ht') ht' false
  rw [validate, validate, run]
  cases hp : Params.ofEntries rest with
  | error e =>
    rw [hp] at hplain hmark
    exact (step_of_error hmark).trans (step_of_error hplain).symm
  | ok params =>
    rw [hp] at hplain hmark
    refine step_congr hmark hplain ?_ ?_ ?_
    · exact (Node.strict_of_mode rfl _).trans (strict_of_typed hm hs hp false _).symm
    · exact (Node.candidates_cons rfl rfl (by decide) _ params false data).trans
        (Node.candidates_cons rfl rfl (by decide) _ params false data).symm
    · intro strict _ tokens _ token _
      rw [attempt_type_cons t, attempt_type_cons t]
      rfl

theorem validate_by_flag (data : Value) (mode ambient : Bool) (s : Option Bool) :
    validate { f with config.strict := ambient } data
        (.map ((.text "type", spec) :: (.text "strict", .bool mode) :: rest)) s =
      f.validate data (.map ((.text "type", spec) :: rest)) (some mode) := by
  have hget : Entries.get? ((.text "strict", .bool mode) :: rest) (.text "type") = none := by
    simpa [Entries.get?, Value.equals] using h
  have hplain := Node.ofContract_type_cons h (TypeExpr.isAbsent_of_read ht) ht false
  have hflag := Node.ofContract_type_cons hget (TypeExpr.isAbsent_of_read ht) ht false
  rw [Params.ofEntries_cons (by decide) (by decide) hs] at hflag
  rw [validate, validate, run]
  cases hp : Params.ofEntries rest with
  | error e =>
    rw [hp] at hplain hflag
    exact (step_of_error hflag).trans (step_of_error hplain).symm
  | ok params =>
    rw [hp] at hplain hflag
    refine step_congr hflag hplain ?_ ?_ ?_
    · exact (Node.strict_of_flag hm rfl _).trans (strict_of_typed hm hs hp false _).symm
    · exact ((Node.candidates_cons rfl rfl (by decide) _ _ false data).trans
        (Node.candidates_cons rfl rfl (by decide) _ params false data)).trans
        (Node.candidates_cons rfl rfl (by decide) _ params false data).symm
    · intro strict _ tokens _ token _
      rw [attempt_type_cons t, attempt_type_cons t, attempt_cons (.inr rfl) t]
      rfl

end Typed

/-- The mode of a contract may be set by a marker in front of its type, by a parameter or by the
call, with the same outcome, whatever the mode around it. Nothing comes in of the mode around a
contract that has a mode of its own, at whatever depth it stands. -/
theorem validate_in_mode {f : Filter} {t : TypeExpr} (ht : TypeExpr.read spec = .ok t)
    (hm : t.mode = none) (h : Entries.get? rest (.text "type") = none)
    (hs : Entries.get? rest (.text "strict") = none) (data : Value) (mode : Bool) :
    (∀ ambient s,
      validate { f with config.strict := ambient } data
          (.map ((.text "type", TypeExpr.marked mode spec) :: rest)) s =
        f.validate data (.map ((.text "type", spec) :: rest)) (some mode) ∧
      validate { f with config.strict := ambient } data
          (.map ((.text "type", spec) :: (.text "strict", .bool mode) :: rest)) s =
        f.validate data (.map ((.text "type", spec) :: rest)) (some mode)) ∧
      ∀ contract i node, Node.ofContract i contract = .ok (some node) → node.SetsMode →
        ∀ types limit levels expanded ambient ambient',
          run types limit levels ⟨ambient, i, expanded⟩ data contract =
            run types limit levels ⟨ambient', i, expanded⟩ data contract := by
  constructor
  · intro ambient s
    exact ⟨validate_by_marker ht hm h hs data mode ambient s,
      validate_by_flag ht hm h hs data mode ambient s⟩
  · intro contract i node hc hmode types limit levels expanded
    exact run_setsMode hc hmode types limit levels expanded data

/-- A record of which one field has a mode of its own. -/
def ticket : Entries :=
  [(.text "keys", .map [(.text "seat", .text "int"), (.text "price", .text "~int; min: 5")])]

def ticketOf : Value := .map [(.text "seat", .int 7), (.text "price", .text "3")]

theorem validate_ticket :
    initial.validate ticketOf (ticket.withType "=assoc") (some false) =
        .ok ⟨.map [(.text "seat", .int 7), (.text "price", .int 5)],
          .map [(.text "seat", .int 7), (.text "price", .int 5)]⟩ ∧
      initial.validate (.map [(.text "seat", .text "7")])
          (Entries.withType ((.text "strict", .bool true) :: ticket) "assoc") none =
        .error (.rejected "Data doesn't respect contract (can't cast to int).") := by
  have ht : TypeExpr.read (.text "assoc") = .ok ⟨["assoc"], none, false⟩ := rfl
  have htype : Entries.get? ticket (.text "type") = none := rfl
  have h (data : Value) := validate_in_mode (f := initial) ht rfl htype rfl data true
  exact ⟨((h _).1 false (some false)).1.trans (by decide +kernel),
    ((h _).1 false none).2.trans (by decide +kernel)⟩

end Filter
end Covenant
