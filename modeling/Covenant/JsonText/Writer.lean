import Covenant.Base64
import Covenant.Value.Text

/-! Writing JSON. -/

namespace Covenant.JsonText

def escape (c : Char) : List Char :=
  if c = '"' ∨ c = '\\' then ['\\', c]
  else if c = '\n' then ['\\', 'n']
  else if c = '\r' then ['\\', 'r']
  else if c = '\t' then ['\\', 't']
  else if c = '\x08' then ['\\', 'b']
  else if c = '\x0c' then ['\\', 'f']
  else if c.toNat < 32 then '\\' :: 'u' :: hexDigits 4 c.toNat
  else [c]

def quote (cs : List Char) : List Char := '"' :: cs.flatMap escape ++ ['"']

def ofDouble (x : Double) : List Char :=
  if x.isFinite then Decimal.ofDouble x
  else
    match x with
    | .nan => "NaN".toList
    | .number negative _ => (if negative then "-Infinity" else "Infinity").toList

/-- The text of a value that is no container. -/
def ofScalar? : Value → Option (Except Failure (List Char))
  | .null => some (.ok "null".toList)
  | .bool b => some (.ok (if b then "true" else "false").toList)
  | .int i => some (Decimal.ofInt? i)
  | .float x => some (.ok (ofDouble x))
  | .text s => some (.ok (quote s.toList))
  | _ => none

/-- A key as a text; containers and bytes are no keys. -/
def ofKey (key : Value) : Except Failure (List Char) :=
  match key with
  | .text s => .ok (quote s.toList)
  | key => do
    match ofScalar? key with
    | some text => return '"' :: (← text) ++ ['"']
    | none => .error (.crashed .wrongKind)

/-- What JSON has no form for: in the tolerant mode bytes are written in base64 and the rest as it
is shown, and else it is an error. -/
def ofOther (tolerant : Bool) (value : Value) : Except Failure (List Char) :=
  if tolerant then
    match value with
    | .bytes data | .buffer data => .ok (quote (Base64.encode data))
    | v => do return quote (← v.toText).toList
  else .error (.crashed .wrongKind)

mutual
def ofValue (tolerant : Bool) : Value → Except Failure (List Char)
  | .list items | .tuple items => do
    return '[' :: Value.commaJoin (← ofItems tolerant items) ++ [']']
  | .map entries => do return '\x7b' :: Value.commaJoin (← ofEntries tolerant entries) ++ ['\x7d']
  | value => (ofScalar? value).getD (ofOther tolerant value)

def ofItems (tolerant : Bool) : List Value → Except Failure (List (List Char))
  | [] => .ok []
  | item :: rest => do return (← ofValue tolerant item) :: (← ofItems tolerant rest)

def ofEntries (tolerant : Bool) : List (Value × Value) → Except Failure (List (List Char))
  | [] => .ok []
  | (k, v) :: rest => do
    return ((← ofKey k) ++ ':' :: ' ' :: (← ofValue tolerant v)) :: (← ofEntries tolerant rest)
end

/-- The text of a value on one line. -/
def write (tolerant : Bool) (value : Value) : Except Failure String :=
  (ofValue tolerant value).map String.ofList

end Covenant.JsonText
