import Covenant.Decimal.Shortest
import Covenant.Failure
import Covenant.Text
import Covenant.Value

namespace Covenant

/-- Integers with more digits have no decimal text. -/
def digitLimit : Nat := 4300

def Decimal.ofInt? (i : Int) : Except Failure (List Char) :=
  if i.natAbs < Nat.pow 10 digitLimit then .ok (Decimal.ofInt i) else .error (.crashed .unreadable)

namespace Value

def escapeChar (quote : Char) (c : Char) : List Char :=
  if c = quote ∨ c = '\\' then ['\\', c]
  else if c = '\n' then ['\\', 'n']
  else if c = '\r' then ['\\', 'r']
  else if c = '\t' then ['\\', 't']
  else if isPrintable c then [c]
  else if c.toNat < 0x100 then '\\' :: 'x' :: hexDigits 2 c.toNat
  else if c.toNat < 0x10000 then '\\' :: 'u' :: hexDigits 4 c.toNat
  else '\\' :: 'U' :: hexDigits 8 c.toNat

def escapeByte (quote : Char) (b : UInt8) : List Char :=
  let c := Char.ofNat b.toNat
  if b.toNat < 128 then escapeChar quote c else '\\' :: 'x' :: hexDigits 2 b.toNat

/-- Double quotes are used for a text that holds an apostrophe and no double quote. -/
def quoteFor (apostrophe double : Bool) : Char := if apostrophe && !double then '"' else '\''

def quoted (cs : List Char) : List Char :=
  let quote := quoteFor (cs.contains '\'') (cs.contains '"')
  quote :: cs.flatMap (escapeChar quote) ++ [quote]

def quoteForBytes (data : List UInt8) : Char := quoteFor (data.contains 39) (data.contains 34)

def quotedBytes (data : List UInt8) : List Char :=
  let quote := quoteForBytes data
  'b' :: quote :: data.flatMap (escapeByte quote) ++ [quote]

/-- In a buffer, apostrophes are escaped inside double quotes too. -/
def quotedBuffer (data : List UInt8) : List Char :=
  let quote := quoteForBytes data
  'b' :: quote :: data.flatMap (escapeByte '\'') ++ [quote]

def commaJoin : List (List Char) → List Char
  | [] => []
  | [cs] => cs
  | cs :: rest => cs ++ ',' :: ' ' :: commaJoin rest

mutual
/-- The text of a value inside a message or a container. -/
def shown : Value → Except Failure (List Char)
  | null => .ok "None".toList
  | bool b => .ok (if b then "True".toList else "False".toList)
  | int i => Decimal.ofInt? i
  | float x => .ok (Decimal.ofDouble x)
  | text s => .ok (quoted s.toList)
  | list items => do return '[' :: commaJoin (← shownList items) ++ [']']
  | tuple [item] => do return '(' :: (← shown item) ++ [',', ')']
  | tuple items => do return '(' :: commaJoin (← shownList items) ++ [')']
  | deque items => do return "deque([".toList ++ commaJoin (← shownList items) ++ [']', ')']
  | map entries => do return '\x7b' :: commaJoin (← shownEntries entries) ++ ['\x7d']
  | bytes data => .ok (quotedBytes data)
  | buffer data => .ok ("bytearray(".toList ++ quotedBuffer data ++ [')'])

def shownList : List Value → Except Failure (List (List Char))
  | [] => .ok []
  | item :: rest => do return (← shown item) :: (← shownList rest)

def shownEntries : List (Value × Value) → Except Failure (List (List Char))
  | [] => .ok []
  | (k, v) :: rest => do
    return ((← shown k) ++ ':' :: ' ' :: (← shown v)) :: (← shownEntries rest)
end

/-- The text of a value on its own: a text stands for itself. -/
def toText : Value → Except Failure String
  | text s => .ok s
  | v => (shown v).map String.ofList

end Value
end Covenant
