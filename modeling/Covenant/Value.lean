import Covenant.Double

namespace Covenant

/-- Untyped data, contracts included. Mappings keep their entries in order. -/
inductive Value where
  | null
  | bool (b : Bool)
  | int (i : Int)
  | float (x : Double)
  | text (s : String)
  | list (items : List Value)
  | tuple (items : List Value)
  | deque (items : List Value)
  | map (entries : List (Value × Value))
  | bytes (data : List UInt8)
  | buffer (data : List UInt8)
  deriving Inhabited

namespace Value

/-- Numbers are compared by value, booleans counting as 0 and 1. -/
def sameNumber : Value → Value → Bool
  | bool a, bool b => a == b
  | bool a, int b => (a.toNat : Int) == b
  | int a, bool b => a == (b.toNat : Int)
  | int a, int b => a == b
  | float a, float b => a.eq b
  | float a, int b => a.eqInt b
  | int a, float b => b.eqInt a
  | float a, bool b => a.eqInt b.toNat
  | bool a, float b => b.eqInt a.toNat
  | _, _ => false

mutual
/-- Equality across number types and byte types; the order of a mapping does not count. -/
def equals : Value → Value → Bool
  | null, null => true
  | text a, text b => a == b
  | list a, list b => equalLists a b
  | tuple a, tuple b => equalLists a b
  | deque a, deque b => equalLists a b
  | map a, map b => a.length == b.length && equalEntries a b
  | bytes a, bytes b => a == b
  | bytes a, buffer b => a == b
  | buffer a, bytes b => a == b
  | buffer a, buffer b => a == b
  | a, b => sameNumber a b

def equalLists : List Value → List Value → Bool
  | [], [] => true
  | a :: as, b :: bs => equals a b && equalLists as bs
  | _, _ => false

def equalEntries : List (Value × Value) → List (Value × Value) → Bool
  | [], _ => true
  | (k, v) :: rest, other =>
    other.any (fun e => equals k e.1 && equals v e.2) && equalEntries rest other
end

/-- Whether two values have the same outermost type. -/
def sameType : Value → Value → Bool
  | null, null | bool _, bool _ | int _, int _ | float _, float _ | text _, text _
  | list _, list _ | tuple _, tuple _ | deque _, deque _ | map _, map _
  | bytes _, bytes _ | buffer _, buffer _ => true
  | _, _ => false

def isTrue : Value → Bool
  | null => false
  | bool b => b
  | int i => i != 0
  | float x => !x.isZero
  | text s => s != ""
  | list items | tuple items | deque items => !items.isEmpty
  | map entries => !entries.isEmpty
  | bytes data | buffer data => !data.isEmpty

def isNull : Value → Bool
  | null => true
  | _ => false

/-- Absent parameters: null and the empty text. -/
def isAbsent : Value → Bool
  | null => true
  | text s => s == ""
  | _ => false

end Value

/-- An ordered mapping with values as keys. -/
abbrev Entries := List (Value × Value)

namespace Entries

def get? (entries : Entries) (key : Value) : Option Value :=
  (entries.find? (·.1.equals key)).map (·.2)

/-- Replaces the value of a key in place, or adds the key at the end. -/
def put (entries : Entries) (key value : Value) : Entries :=
  match entries with
  | [] => [(key, value)]
  | (k, v) :: rest => if k.equals key then (k, value) :: rest else (k, v) :: put rest key value

def ofList (pairs : List (Value × Value)) : Entries :=
  pairs.foldl (fun entries e => entries.put e.1 e.2) []

/-- The first mapping with the entries of the second put in. -/
def update (entries other : Entries) : Entries :=
  other.foldl (fun entries e => entries.put e.1 e.2) entries

end Entries
end Covenant
