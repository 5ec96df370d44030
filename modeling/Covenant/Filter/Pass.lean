import Covenant.Registry

/-! Filtering data by contracts: unions are tried in order, aliases are expanded. -/

namespace Covenant

/-- Where a contract stands: the mode around it, whether it is in the compact notation, and the
aliases expanded on the way to it. -/
structure Scope where
  strict : Bool
  inline : Bool
  expanded : List String

/-- The scope of a part of the data. -/
def Scope.part (strict : Bool) : Scope := ⟨strict, false, []⟩

namespace Filter

/-- A way of filtering data by a contract. -/
abbrev Pass := Scope → Value → Value → Except Failure Result

def tooDeep (limit : Nat) : Failure :=
  .malformed ("Contract too deeply nested (more than " ++ toString limit ++ " levels).")

/-- The result of the first type that does not reject the data; else the last rejection. -/
def firstAccepted (attempt : String → Except Failure Result) (message : String) :
    List String → Except Failure Result
  | [] => .error (.rejected message)
  | token :: rest =>
    match attempt token with
    | .error (.rejected message) => firstAccepted attempt message rest
    | outcome => outcome

/-- Text in base64 has its content checked loosely, by what stands for binary content. -/
def content (registry : Registry) (nested : Pass) (inline : Bool) (params : Params) (data : Value) :
    Except Failure Result := do
  let kind ← registry.kind "binary"
  let inner : Check.Delegate :=
    ⟨nested (.part false), fun _ _ => .error (.rejected "Data is not a valid base64 string.")⟩
  kind.validate inner ⟨false, inline⟩ params data

def delegate (registry : Registry) (nested : Pass) (mode : Mode) : Check.Delegate :=
  ⟨nested (.part mode.strict), content registry nested mode.inline⟩

/-- Filters data by one type of a node. -/
def attempt (registry : Registry) (nested : Pass) (scope : Scope) (node : Node) (strict : Bool)
    (data : Value) (token : String) : Except Failure Result := do
  match ← registry.lookup token with
  | .template template =>
    if scope.expanded.contains token then
      .error (.malformed ("Alias cycle detected on type '" ++ token ++ "'."))
    else
      let contract ← template.expand node.params
      nested ⟨strict, node.inline || template.inline, token :: scope.expanded⟩ data contract
  | .kind _ =>
    let kind ← registry.kind token
    let mode : Mode := ⟨strict, node.inline⟩
    kind.validate (delegate registry nested mode) mode node.params data

def noTypeLeft : String := "Data doesn't validate the contract."

/-- Filters data by a contract, leaving nested contracts to another pass. -/
def step (registry : Registry) (nested : Pass) : Pass := fun scope data contract => do
  match ← Node.ofContract scope.inline contract with
  | none => return ⟨data, .null⟩
  | some node =>
    let strict ← node.strict scope.strict
    match node.candidates data with
    | none => return ⟨.null, .null⟩
    | some tokens =>
      firstAccepted (attempt registry nested scope node strict data) noTypeLeft tokens

/-- Filters data by a contract that is nested over a number of levels at most, of a limit. -/
def run (registry : Registry) (limit : Nat) : Nat → Pass
  | 0 => fun _ _ _ => .error (tooDeep limit)
  | levels + 1 => step registry (run registry limit levels)

end Filter

end Covenant
