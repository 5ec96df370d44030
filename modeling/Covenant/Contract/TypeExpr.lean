import Covenant.CodeSet
import Covenant.Value.Text

namespace Covenant

/-- A union of type tokens, with the mode its marker sets. -/
structure TypeExpr where
  tokens : List String
  mode : Option Bool
  nullable : Bool
  deriving DecidableEq

namespace TypeExpr

def nullToken : String := "null"

def isNull (token : String) : Bool := onChars lower token == nullToken

/-- The mode marker in front of a type: `=` for strict and `~` for loose. -/
def readMode : List Char → Option Bool × List Char
  | '=' :: cs => (some true, trimLeft cs)
  | '~' :: cs => (some false, trimLeft cs)
  | cs => (none, cs)

def readNullable : List Char → Bool × List Char
  | '?' :: cs => (true, cs)
  | cs => (false, cs)

def splitUnion (cs : List Char) : List String :=
  (splitWhere (· == '|') cs).map fun part => String.ofList (trim part)

/-- The texts of a list of type tokens. -/
def texts? : List Value → Option (List String)
  | [] => some []
  | .text s :: rest => (texts? rest).map (s :: ·)
  | _ :: _ => none

/-- The text a type specification stands for: a sequence is a union of its members. -/
def sourceOf (spec : Value) : Except Failure String :=
  match spec with
  | .text s => .ok s
  | .list items | .tuple items =>
    match texts? items with
    | some tokens => .ok (join "|" tokens)
    | none => do
      .error (.malformed ("Bad contract type " ++ String.ofList (← spec.shown) ++ "."))
  | _ => do .error (.malformed ("Bad contract type " ++ String.ofList (← spec.shown) ++ "."))

/-- Reads a type specification. Null goes first when it comes from the `?` marker. -/
def read (spec : Value) : Except Failure TypeExpr := do
  let source ← sourceOf spec
  let (mode, rest) := readMode (trim source.toList)
  let (marked, rest) := readNullable rest
  let tokens := splitUnion rest
  if tokens.any (· == "") then
    .error (.malformed ("Bad contract type '" ++ (← spec.toText) ++ "' (empty type)."))
  else
    let tokens := tokens.map fun t => if isNull t then nullToken else t
    if tokens.contains nullToken then return ⟨tokens, mode, true⟩
    else return ⟨if marked then nullToken :: tokens else tokens, mode, marked⟩

end TypeExpr
end Covenant
