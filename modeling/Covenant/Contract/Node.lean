import Covenant.Contract.Source
import Covenant.Contract.TypeExpr
import Covenant.Number

namespace Covenant

/-- One node of a contract: a type and its parameters, and whether it is in the compact notation. -/
structure Node where
  type : TypeExpr
  params : Params
  inline : Bool

namespace Node

/-- The parameters of a record with these keys. -/
def record (keys : Value) : Params := [("type", .text "assoc"), ("keys", keys)]

/-- The parameters of a contract; none where anything is accepted. -/
def paramsOf (contract : Value) : Except Failure (Option Params) :=
  match contract with
  | .null => .ok none
  | .text s =>
    if s.toList.all isBlank then .ok none
    else do return some (← Source.read s)
  | .list items | .tuple items => .ok (some (record (.list items)))
  | .map [] => .ok none
  | .map entries =>
    if (Entries.get? entries (.text "type")).isNone then .ok (some (record (.map entries)))
    else do return some (← Params.ofEntries entries)
  | _ => do .error (.malformed ("Bad contract " ++ String.ofList (← contract.shown) ++ "."))

def isText : Value → Bool
  | .text _ => true
  | _ => false

/-- Reads a contract that stands in the compact notation or not. -/
def ofContract (inline : Bool) (contract : Value) : Except Failure (Option Node) := do
  match ← paramsOf contract with
  | none => return none
  | some params =>
    let spec := params.get "type"
    if spec.isAbsent then return none
    else return some ⟨← TypeExpr.read spec, params, inline || isText contract⟩

/-- The mode of a node: its marker, else its parameter, else the mode around it. -/
def strict (node : Node) (ambient : Bool) : Except Failure Bool :=
  match node.type.mode, node.params.get "strict" with
  | some mode, _ => .ok mode
  | none, .null => .ok ambient
  | none, flag => Flag.ofValue flag "strict"

def members (node : Node) : List String := node.type.tokens.filter (· != TypeExpr.nullToken)

/-- Whether the default of a node is null, which only the compact notation can say. -/
def defaultsToNull (node : Node) : Bool :=
  node.inline && node.type.nullable && (node.params.get "default").equals (.text "null")

/-- The types that null is tried against; none if it is accepted right away. -/
def nullCandidates (node : Node) : Option (List String) :=
  if !(node.params.get "default").isNull && !node.members.isEmpty && !node.defaultsToNull then
    some node.members
  else if node.type.nullable then none
  else some node.type.tokens

/-- The types that data is tried against; none if it is accepted right away. Null is left out of a
union for other data, whose default is a matter of the other types. -/
def candidates (node : Node) (data : Value) : Option (List String) :=
  match data with
  | .null => node.nullCandidates
  | _ => some (if node.type.tokens.length > 1 then node.members else node.type.tokens)

end Node
end Covenant
