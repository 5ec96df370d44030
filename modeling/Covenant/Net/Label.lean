import Covenant.Net.Punycode
import Covenant.Normalize
import Covenant.Unicode.Direction
import Covenant.Unicode.HostMap
import Covenant.Unicode.Label
import Covenant.Unicode.Mark

/-! Labels of host names: their mapping and what they may hold. -/

namespace Covenant.Net

def labelsOf (cs : List Char) : List (List Char) := splitWhere (· == '.') cs

def joinLabels (labels : List (List Char)) : List Char :=
  (join "." (labels.map String.ofList)).toList

/-- No character before the combining ones is a mark. -/
def isMark (c : Char) : Bool := 0x300 ≤ c.toNat && Unicode.markSet.contains c.toNat

/-- The characters a host name has for one; none if it is not allowed. ASCII has letters in lower case.
-/
def mapHostChar? (c : Char) : Option (List Char) :=
  let n := c.toNat
  if n < 128 then some [lowerAscii c]
  else if Unicode.hostKeptSet.contains n then some [c]
  else if Unicode.hostIgnoredSet.contains n then some []
  else
    match Unicode.hostMap.get? n with
    | some m => some [Char.ofNat m]
    | none => ((Unicode.hostExpansions.find? (·.1 == n)).map (·.2)).map (·.map Char.ofNat)

/-- A host name in lower case and composed form. -/
def mapHost? (cs : List Char) : Option (List Char) :=
  (cs.mapM mapHostChar?).map fun parts => Normalize.nfc parts.flatten

/-- How a character runs among others. -/
inductive Direction where
  | left
  | right
  | arabicNumber
  | europeanNumber
  | neutral
  | mark
  deriving DecidableEq

namespace Direction

def ofChar? (c : Char) : Option Direction :=
  let n := c.toNat
  if Unicode.rightToLeftSet.contains n then some right
  else if Unicode.arabicNumberSet.contains n then some arabicNumber
  else if Unicode.europeanNumberSet.contains n then some europeanNumber
  else if Unicode.spacelessMarkSet.contains n then some mark
  else if Unicode.neutralSet.contains n then some neutral
  else if isPrintable c then some left
  else none

def isRightward : Direction → Bool
  | right | arabicNumber => true
  | _ => false

/-- The last direction apart from marks. -/
def lastOf (ds : List Direction) : Option Direction := (ds.reverse.dropWhile (· == mark)).head?

/-- A label that starts from the right has no left letters, one kind of digits, and ends in a letter
or digit. A label that starts from the left has nothing from the right, and ends in a letter or
digit. -/
def consistent (ds : List Direction) : Bool :=
  match ds.head? with
  | some right =>
    !ds.contains left && !(ds.contains arabicNumber && ds.contains europeanNumber)
      && [some right, some europeanNumber, some arabicNumber].contains (lastOf ds)
  | some left =>
    !ds.any isRightward && [some left, some europeanNumber].contains (lastOf ds)
  | _ => false

end Direction

/-- Whether the directions in a label go together; they do when nothing runs from the right. -/
def directionsAgree (cs : List Char) : Bool :=
  match cs.mapM Direction.ofChar? with
  | some ds => !ds.any Direction.isRightward || Direction.consistent ds
  | none => false

/-- Whether the nearest character that is not joined across joins on the side of a joiner. -/
def joins (set : CodeSet) (cs : List Char) : Bool :=
  match cs.dropWhile fun c => Unicode.joinsThroughSet.contains c.toNat with
  | c :: _ => set.contains c.toNat
  | [] => false

def followsVirama (before : List Char) : Bool :=
  before.head?.any fun c => Unicode.viramaSet.contains c.toNat

/-- Whether a character that needs a context has it. The characters before it are in reverse. -/
def fitsContext (before : List Char) (c : Char) (after : List Char) : Bool :=
  let n := c.toNat
  let all := before ++ after
  if n = 0x200C then
    followsVirama before
      || (joins Unicode.joinsNextSet before && joins Unicode.joinsLastSet after)
  else if n = 0x200D then followsVirama before
  else if n = 0xB7 then before.head? == some 'l' && after.head? == some 'l'
  else if n = 0x375 then after.head?.any fun d => Unicode.greekSet.contains d.toNat
  else if n = 0x5F3 ∨ n = 0x5F4 then before.head?.any fun d => Unicode.hebrewSet.contains d.toNat
  else if n = 0x30FB then
    all.any fun d => d.toNat != 0x30FB && Unicode.kanaHanSet.contains d.toNat
  else if 0x660 ≤ n ∧ n ≤ 0x669 then !all.any fun d => 0x6F0 ≤ d.toNat && d.toNat ≤ 0x6F9
  else if 0x6F0 ≤ n ∧ n ≤ 0x6F9 then !all.any fun d => 0x660 ≤ d.toNat && d.toNat ≤ 0x669
  else false

def allFitting (test : List Char → Char → List Char → Bool) : List Char → List Char → Bool
  | _, [] => true
  | before, c :: after => test before c after && allFitting test (c :: before) after

/-- The hyphens of a label: none at the ends, and not two in the third and fourth place. -/
def hyphensAllowed (cs : List Char) : Bool :=
  (cs.drop 2).take 2 != ['-', '-'] && cs.head? != some '-' && cs.getLast? != some '-'

/-- A label that may be registered. -/
def isLabel (cs : List Char) : Bool :=
  !cs.isEmpty && cs.length ≤ 254 && Normalize.nfc cs == cs && hyphensAllowed cs
    && !cs.head?.any isMark
    && allFitting
        (fun before c after =>
          Unicode.labelSet.contains c.toNat || fitsContext before c after) [] cs
    && directionsAgree cs

def acePrefix : List Char := ['x', 'n', '-', '-']

/-- The label that an ASCII label stands for. -/
def decodeLabel? (cs : List Char) : Option (List Char) :=
  let cs := cs.map lowerAscii
  if cs.take 4 = acePrefix then
    let rest := cs.drop 4
    if rest.isEmpty || rest.getLast? == some '-' then none
    else (Punycode.decode? rest).bind fun label => if isLabel label then some label else none
  else if isLabel cs then some cs
  else none

def isAscii (cs : List Char) : Bool := cs.all (·.toNat < 128)

def labelLimit : Nat := 63

/-- The ASCII form of a label. -/
def encodeLabel? (cs : List Char) : Option (List Char) :=
  let encoded := if isAscii cs then cs else acePrefix ++ Punycode.encode cs
  let allowed := if isAscii cs then (decodeLabel? cs).isSome else isLabel cs
  if allowed && encoded.length ≤ labelLimit then some encoded else none

end Covenant.Net
