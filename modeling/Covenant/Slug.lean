import Covenant.Text
import Covenant.Unicode.Ascii

namespace Covenant

/-- The ASCII part of a character's compatibility decomposition. -/
def asciiPart (c : Char) : List Char :=
  if c.toNat < 128 then [c]
  else
    match Unicode.singleMap.get? c.toNat with
    | some n => [Char.ofNat n]
    | none => (((Unicode.severalTable.find? (·.1 == c.toNat)).map (·.2)).getD []).map Char.ofNat

namespace Slug

def isKept (underscores : Bool) (c : Char) : Bool :=
  isAsciiDigit c || isAsciiLetter c || (underscores && c == '_')

/-- A run of dashes becomes a single one. -/
def collapse : List Char → List Char
  | [] => []
  | c :: cs =>
    match collapse cs with
    | '-' :: rest => if c = '-' then '-' :: rest else c :: '-' :: rest
    | rest => c :: rest

def isEdge (c : Char) : Bool := c == '-' || c == '_'

def stripEdges (cs : List Char) : List Char :=
  (((cs.dropWhile isEdge).reverse).dropWhile isEdge).reverse

/-- The slug of ASCII characters: whatever is not kept becomes a dash. -/
def ofAscii (underscores : Bool) (cs : List Char) : List Char :=
  let dashed := cs.map fun c => if isKept underscores c then lowerAscii c else '-'
  match stripEdges (collapse dashed) with
  | [] => ['-']
  | slug => slug

/-- A text in lower-case letters, digits and dashes; the empty text is its own slug. -/
def ofText (s : String) (underscores : Bool) : String :=
  match s.toList with
  | [] => ""
  | cs => String.ofList (ofAscii underscores (cs.flatMap asciiPart))

end Slug
end Covenant
