import Covenant.CodeSet
import Covenant.Number

namespace Covenant.ListParam

def splitCommas (s : String) : List Value :=
  (splitWhere (· == ',') s.toList).map fun part => .text (String.ofList (trim part))

/-- A list parameter: a sequence, or a text with commas. -/
def ofValue (value : Value) (name : String) : Except Failure (Option (List Value)) :=
  match value with
  | .null => .ok none
  | .text s => .ok (some (splitCommas s))
  | .list items | .tuple items => .ok (some items)
  | _ => .error (badParameter name)

end Covenant.ListParam
