import Covenant.Filter.Basic

/-! Filtering a JSON document. -/

namespace Covenant.Document

/-- A contract that starts like a JSON structure is one, and any other is in the compact notation.
-/
def readContract (source : String) : Except Failure Value :=
  let cs := trim source.toList
  if cs.head? = some '\x7b' ∨ cs.head? = some '[' then
    match JsonText.read true cs with
    | .ok contract => .ok contract
    | .error problem =>
      .error (.malformed ("Bad JSON contract (" ++ JsonText.describe cs problem ++ ")."))
  else .ok (.text source)

def readInput (input : String) : Except Failure Value :=
  match JsonText.read true input.toList with
  | .ok data => .ok data
  | .error problem =>
    .error (.rejected
      ("Input is not valid JSON (" ++ JsonText.describe input.toList problem ++ ")."))

/-- The JSON text of a filtered document. -/
def filter (config : Config) (contract input : String) : Except Failure String := do
  let data ← readInput input
  let filter ← Filter.ofConfig config (← Registry.ofAliases [] true)
  let value ← filter.process data (← readContract contract) none
  JsonText.write true value

end Covenant.Document
