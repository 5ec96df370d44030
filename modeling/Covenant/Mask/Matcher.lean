import Covenant.Mask.Reader

/-! Searching a text for a mask, by backtracking in the order the mask lists its choices. -/

namespace Covenant.Mask

/-- Lower-case letters that share their capital letter with others. -/
def caseFamilies : List (List Nat) :=
  ["69 131", "73 17f", "b5 3bc", "345 3b9 1fbe", "390 1fd3", "3b0 1fe3", "3b2 3d0", "3b5 3f5",
    "3b8 3d1", "3ba 3f0", "3c0 3d6", "3c1 3f1", "3c2 3c3", "3c6 3d5", "432 1c80", "434 1c81",
    "43e 1c82", "441 1c83", "442 1c84 1c85", "44a 1c86", "463 1c87", "1c88 a64b", "1e61 1e9b",
    "fb05 fb06"].map fun s => (words s).map hexNumber

def lowerCode (n : Nat) : Nat :=
  if n < 128 then (lowerAscii (Char.ofNat n)).toNat
  else if n = 0x130 then 0x69
  else (Unicode.lowerMap.get? n).getD n

def lowerCodeAscii (n : Nat) : Nat := if 65 ≤ n && n ≤ 90 then n + 32 else n

/-- The lower-case code points that a code point is equal to when case is ignored. -/
def caseClass (n : Nat) : List Nat :=
  let low := lowerCode n
  (caseFamilies.find? (·.contains low)).getD [low]

/-- The code points with a lower-case letter in common with one. -/
def caseVariants (n : Nat) : List Nat :=
  (caseClass n).flatMap fun low =>
    low :: Unicode.lowerMap.ranges.toList.filterMap fun (first, last, step, target) =>
      if target ≤ low ∧ low ≤ target + (last - first) ∧ (low - target) % step = 0
      then some (first + (low - target)) else none

def foldCode (flags : Flags) (n : Nat) : Nat :=
  if flags.ascii then lowerCodeAscii n else lowerCode n

def sameCode (flags : Flags) (a b : Nat) : Bool :=
  a == b ||
    (flags.ignoreCase &&
      (if flags.ascii then lowerCodeAscii a == lowerCodeAscii b
      else (caseClass a).contains (lowerCode b)))

def isWordCode (flags : Flags) (n : Nat) : Bool :=
  let c := Char.ofNat n
  c == '_' || (if flags.ascii then isAsciiDigit c || isAsciiLetter c else isAlphanumeric c)

def isBlankCode (flags : Flags) (n : Nat) : Bool :=
  if flags.ascii then (9 ≤ n && n ≤ 13) || n == 32 else isBlank (Char.ofNat n)

def isDigitCode (flags : Flags) (n : Nat) : Bool :=
  if flags.ascii then 48 ≤ n && n ≤ 57 else isDecimal (Char.ofNat n)

def inCategory (flags : Flags) (n : Nat) : Category → Bool
  | .digit => isDigitCode flags n
  | .blank => isBlankCode flags n
  | .word => isWordCode flags n

def inItem (flags : Flags) (n : Nat) : SetItem → Bool
  | .code c => sameCode flags c n
  | .range low high =>
    (low ≤ n && n ≤ high) ||
      (flags.ignoreCase &&
        (if flags.ascii then [lowerCodeAscii n, if 97 ≤ n && n ≤ 122 then n - 32 else n]
          else caseVariants n).any fun m => low ≤ m && m ≤ high)
  | .category kind negated => inCategory flags n kind != negated

/-- A place in the text, with what each group has matched. -/
structure Cursor where
  before : List Char
  after : List Char
  groups : List (Nat × List Char) := []

namespace Cursor

def group? (s : Cursor) (index : Nat) : Option (List Char) :=
  (s.groups.find? (·.1 == index)).map (·.2)

def record (s : Cursor) (index : Nat) (text : List Char) : Cursor :=
  { s with groups := (index, text) :: s.groups.filter (·.1 != index) }

def step (s : Cursor) (c : Char) (rest : List Char) : Cursor :=
  { s with before := c :: s.before, after := rest }

/-- Moves back by a number of characters, if there are so many. -/
def back? (s : Cursor) : Nat → Option Cursor
  | 0 => some s
  | n + 1 =>
    match s.before with
    | [] => none
    | c :: before => back? { s with before := before, after := c :: s.after } n

end Cursor

abbrev Next := Cursor → Option Cursor

def matchCode (test : Nat → Bool) (k : Next) (s : Cursor) : Option Cursor :=
  match s.after with
  | c :: rest => if test c.toNat then k (s.step c rest) else none
  | [] => none

def holdsAt (flags : Flags) (s : Cursor) : Anchor → Bool
  | .lineStart =>
    match s.before with
    | [] => true
    | c :: _ => flags.multiline && c == '\n'
  | .lineEnd =>
    match s.after with
    | [] => true
    | ['\n'] => true
    | c :: _ => flags.multiline && c == '\n'
  | .textStart => s.before.isEmpty
  | .textEnd => s.after.isEmpty
  | .wordEdge => edge
  | .noWordEdge => !(s.before.isEmpty && s.after.isEmpty) && !edge
where
  isWord (cs : List Char) : Bool :=
    match cs with
    | c :: _ => isWordCode flags c.toNat
    | [] => false
  edge : Bool := isWord s.before != isWord s.after

/-- The text matched again, letter case apart where it is ignored. -/
def matchText (flags : Flags) (k : Next) : List Char → Cursor → Option Cursor
  | [], s => k s
  | t :: ts, s =>
    match s.after with
    | c :: rest =>
      if t == c || (flags.ignoreCase && foldCode flags t.toNat == foldCode flags c.toNat)
      then matchText flags k ts (s.step c rest) else none
    | [] => none

def below (count : Nat) (high : Option Nat) : Bool :=
  match high with
  | some n => count < n
  | none => true

/-- Further rounds of a greedy repetition; a round past the least count must move on. -/
def greedyRounds (round : Next → Next) (low : Nat) (high : Option Nat) (k : Next) :
    Nat → Nat → Option Nat → Cursor → Option Cursor
  | 0, _, _, s => k s
  | n + 1, count, last, s =>
    if count < low then round (greedyRounds round low high k n (count + 1) last) s
    else if below count high && last != some s.after.length then
      match round (greedyRounds round low high k n (count + 1) (some s.after.length)) s with
      | some r => some r
      | none => k s
    else k s

def lazyRounds (round : Next → Next) (low : Nat) (high : Option Nat) (k : Next) :
    Nat → Nat → Option Nat → Cursor → Option Cursor
  | 0, _, _, s => k s
  | n + 1, count, last, s =>
    if count < low then round (lazyRounds round low high k n (count + 1) last) s
    else
      match k s with
      | some r => some r
      | none =>
        if below count high && last != some s.after.length then
          round (lazyRounds round low high k n (count + 1) (some s.after.length)) s
        else none

/-- The place behind the longest run of rounds, if there are enough. -/
def possessiveRounds (round : Next) (low : Nat) (high : Option Nat) :
    Nat → Nat → Option Nat → Cursor → Option Cursor
  | 0, _, _, s => some s
  | n + 1, count, last, s =>
    if count < low then (round s).bind (possessiveRounds round low high n (count + 1) last)
    else if below count high && last != some s.after.length then
      match round s with
      | some t => possessiveRounds round low high n (count + 1) (some s.after.length) t
      | none => some s
    else some s

mutual
def matchNode (flags : Flags) : Node → Next → Next
  | .code c, k => matchCode (sameCode flags c) k
  | .anyChar, k => matchCode (fun n => flags.dotAll || n != 10) k
  | .set negated items, k => matchCode (fun n => items.any (inItem flags n) != negated) k
  | .anchor place, k => fun s => if holdsAt flags s place then k s else none
  | .branch options, k => matchOptions flags options k
  | .group index on off body, k => fun s =>
    let start := s.after
    matchItems (flags.change on off) body
      (fun t =>
        match index with
        | some i => k (t.record i (start.take (start.length - t.after.length)))
        | none => k t) s
  | .atomic body, k => fun s => (matchItems flags body some s).bind k
  | .look ahead negated width body, k => fun s =>
    let start := if ahead then some s else s.back? width
    match start.bind (matchItems flags body some) with
    | some t => if negated then none else k { s with groups := t.groups }
    | none => if negated then k s else none
  | .repeat greed low high body, k => fun s =>
    let rounds := low + s.after.length + 2
    match greed with
    | .greedy => greedyRounds (matchItems flags body) low high k rounds 0 none s
    | .lazy => lazyRounds (matchItems flags body) low high k rounds 0 none s
    | .possessive =>
      (possessiveRounds (matchItems flags body some) low high rounds 0 none s).bind k
  | .ref index, k => fun s =>
    match s.group? index with
    | some text => matchText flags k text s
    | none => none
  | .cond index yes no, k => fun s =>
    match s.group? index with
    | some _ => matchItems flags yes k s
    | none => matchItems flags no k s

def matchItems (flags : Flags) : List Node → Next → Next
  | [], k => k
  | node :: rest, k => matchNode flags node (matchItems flags rest k)

def matchOptions (flags : Flags) : List (List Node) → Next → Next
  | [], _ => fun _ => none
  | body :: rest, k => fun s =>
    match matchItems flags body k s with
    | some r => some r
    | none => matchOptions flags rest k s
end

/-- Whether the mask matches at this place of the text or a later one. -/
def foundFrom (mask : Compiled) : List Char → List Char → Bool
  | before, [] => (matchItems mask.flags mask.items some { before := before, after := [] }).isSome
  | before, c :: cs =>
    (matchItems mask.flags mask.items some { before := before, after := c :: cs }).isSome
      || foundFrom mask (c :: before) cs

def found (mask : Compiled) (cs : List Char) : Bool := foundFrom mask [] cs

def badMask (cs : List Char) : Flaw → Failure
  | .invalid message place =>
    .malformed ("Bad contract 'mask' parameter (" ++ describe cs message place ++ ").")
  | .countTooLarge => .crashed .overflow
  | .alphabetConflict => .crashed .unreadable

def compile (cs : List Char) : Except Failure Compiled :=
  match read cs with
  | .ok mask => .ok mask
  | .error flaw => .error (badMask cs flaw)

/-- Whether a mask is found in a text. -/
def search (mask text : String) : Except Failure Bool := do
  return found (← compile mask.toList) text.toList

end Covenant.Mask
