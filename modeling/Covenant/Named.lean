namespace Covenant

/-- Things by name, in order, each name once. -/
abbrev Named (α : Type) := List (String × α)

namespace Named

def get? (table : Named α) (name : String) : Option α :=
  (table.find? (·.1 == name)).map (·.2)

def has (table : Named α) (name : String) : Bool := table.any (·.1 == name)

/-- Replaces what a name stands for in place, or adds the name at the end. -/
def put (table : Named α) (name : String) (a : α) : Named α :=
  match table with
  | [] => [(name, a)]
  | (n, b) :: rest => if n = name then (n, a) :: rest else (n, b) :: put rest name a

/-- The first table with the names of the second put in. -/
def update (table other : Named α) : Named α :=
  other.foldl (fun table e => table.put e.1 e.2) table

end Named
end Covenant
