import Covenant.Failure
import Covenant.Named
import Covenant.Text
import Covenant.Value

namespace Covenant

/-- The parameters of a contract node by canonical name. -/
abbrev Params := Named Value

namespace Params

/-- The value of a parameter, null when it is absent. -/
def get (params : Params) (name : String) : Value := (Named.get? params name).getD .null

def toEntries (params : Params) : Entries := params.map fun p => (.text p.1, p.2)

def toValue (params : Params) : Value := .map params.toEntries

/-- Names that may be written in any case, with or without underscores. -/
def flexibleNames : Named String :=
  [("minlen", "minLen"), ("maxlen", "maxLen"), ("informat", "inFormat"),
    ("outformat", "outFormat")]

def canonicalName (name : String) : String :=
  let folded := onChars (fun cs => lower (cs.filter (· != '_'))) name
  (flexibleNames.get? folded).getD name

/-- The parameters of a mapping under their canonical names; of two spellings the later value
counts. -/
def ofEntries (entries : Entries) : Except Failure Params :=
  entries.foldlM (fun params e =>
    match e.1 with
    | .text name => .ok (params.put (canonicalName name) e.2)
    | .bytes _ => .error (.crashed .wrongKind)
    | _ => .error (.crashed .notText)) []

end Params
end Covenant
