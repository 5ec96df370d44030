import Covenant.Charset.Names
import Covenant.Failure
import Covenant.Text

namespace Covenant.Charset

def isNameChar (c : Char) : Bool := isAsciiDigit c || isAsciiLetter c || c == '.'

/-- The name with one underscore for each run of other characters between two name characters. -/
def foldName (cs : List Char) : List Char :=
  let parts := (splitWhere (fun c => !isNameChar c) cs).filter (!·.isEmpty)
  (join "_" (parts.map String.ofList)).toList

def namedIn (table : List (String × List String)) (name : String) : Option String :=
  (table.find? (·.2.contains name)).map (·.1)

/-- The charset of a folded name: first its other names are tried, then its spelling. -/
def named? (name : List Char) : Option String :=
  let underscored := String.ofList (name.map fun c => if c = '.' then '_' else c)
  (namedIn aliasTable (String.ofList name)).orElse fun _ =>
    (namedIn aliasTable underscored).orElse fun _ =>
      if name.contains '.' then none else namedIn spellingTable (String.ofList name)

/-- The canonical name of a charset. -/
def canonicalName (name : String) : Except Failure String :=
  let name := onChars (fun cs => lower (trim cs)) name
  if name.toList.any (· == Char.ofNat 0) then .error (.crashed .unreadable)
  else
    match named? (foldName name.toList) with
    | some charset => .ok charset
    | none => .error (.malformed ("Unknown charset '" ++ name ++ "'."))

end Covenant.Charset
