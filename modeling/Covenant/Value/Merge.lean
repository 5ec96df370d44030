import Covenant.Value

namespace Covenant

mutual
/-- A value laid over another one. Mappings are merged, and anything else is replaced. -/
def Value.over (base : Option Value) : Value → Value
  | .map entries =>
    match base with
    | some (.map below) => .map (Entries.overlay below entries)
    | _ => .map entries
  | v => v

/-- A mapping with another one laid over it. -/
def Entries.overlay (base : List (Value × Value)) : List (Value × Value) → List (Value × Value)
  | [] => base
  | (k, v) :: rest =>
    Entries.overlay (Entries.put base k (Value.over (Entries.get? base k) v)) rest
end

/-- A mapping with others laid over it in turn. -/
def Entries.overlayAll (base : Entries) (layers : List Entries) : Entries :=
  layers.foldl Entries.overlay base

end Covenant
