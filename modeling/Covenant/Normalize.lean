import Covenant.Unicode.Normal

/-! The composed normal form of texts. -/

namespace Covenant.Normalize

/-- The first syllable, leading consonant, vowel, and the place before the first trailing consonant.
-/
def syllableBase : Nat := 0xAC00

def leadBase : Nat := 0x1100

def vowelBase : Nat := 0x1161

def tailBase : Nat := 0x11A7

def vowelCount : Nat := 21

def tailCount : Nat := 28

def syllableCount : Nat := 19 * vowelCount * tailCount

/-- The parts of a Hangul syllable. -/
def syllableParts? (n : Nat) : Option (List Nat) :=
  if syllableBase ≤ n ∧ n < syllableBase + syllableCount then
    let i := n - syllableBase
    let start := [leadBase + i / (vowelCount * tailCount), vowelBase + i / tailCount % vowelCount]
    some (if i % tailCount = 0 then start else start ++ [tailBase + i % tailCount])
  else none

def composeSyllable? (a b : Nat) : Option Nat :=
  if leadBase ≤ a ∧ a < leadBase + 19 ∧ vowelBase ≤ b ∧ b < vowelBase + vowelCount then
    some (syllableBase + ((a - leadBase) * vowelCount + (b - vowelBase)) * tailCount)
  else if syllableBase ≤ a ∧ a < syllableBase + syllableCount ∧ (a - syllableBase) % tailCount = 0
      ∧ tailBase < b ∧ b < tailBase + tailCount then
    some (a + (b - tailBase))
  else none

def parts? (n : Nat) : Option (List Nat) :=
  match (Unicode.composites.find? (·.1 == n)).map (·.2) with
  | some ns => some ns
  | none => (Unicode.replacements.find? (·.1 == n)).map (·.2)

/-- The decomposition of a code point; no character is made in more steps than are taken. -/
def decompose : Nat → Nat → List Nat
  | 0, n => [n]
  | fuel + 1, n =>
    if n < 0xC0 then [n]
    else
      match syllableParts? n with
      | some ns => ns
      | none =>
        match parts? n with
        | some ns => ns.flatMap (decompose fuel)
        | none => [n]

def combiningClass (n : Nat) : Nat :=
  if n < 0x300 then 0
  else ((Unicode.combiningSets.find? (·.2.contains n)).map (·.1)).getD 0

/-- Puts a character behind those before it, the last first, and in front of marks of a higher
class. -/
def insertMark (n kind : Nat) : List (Nat × Nat) → List (Nat × Nat)
  | [] => [(n, kind)]
  | (m, k) :: rest =>
    if kind ≠ 0 ∧ kind < k then (m, k) :: insertMark n kind rest else (n, kind) :: (m, k) :: rest

def reorder (ns : List Nat) : List (Nat × Nat) :=
  (ns.foldl (fun before n => insertMark n (combiningClass n) before) []).reverse

def compose? (a b : Nat) : Option Nat :=
  match composeSyllable? a b with
  | some n => some n
  | none =>
    if b < 0x300 then none else (Unicode.composites.find? (·.2 == [a, b])).map (·.1)

/-- Composes characters with the last base character. The marks that stay behind it are kept in
reverse, the last one with its class. -/
def composeFrom (base : Nat) (marks : List (Nat × Nat)) : List (Nat × Nat) → List Nat
  | [] => base :: (marks.map (·.1)).reverse
  | (n, kind) :: rest =>
    let free := marks.head?.all fun last => last.2 < kind
    match if free then compose? base n else none with
    | some composed => composeFrom composed marks rest
    | none =>
      if kind = 0 then base :: (marks.map (·.1)).reverse ++ composeFrom n [] rest
      else composeFrom base ((n, kind) :: marks) rest

/-- Marks before the first base character are left as they are. -/
def composeAll : List (Nat × Nat) → List Nat
  | [] => []
  | (n, kind) :: rest => if kind = 0 then composeFrom n [] rest else n :: composeAll rest

/-- The composed normal form. -/
def nfc (cs : List Char) : List Char :=
  if cs.all (·.toNat < 0x300) then cs
  else (composeAll (reorder (cs.flatMap fun c => decompose 8 c.toNat))).map Char.ofNat

end Covenant.Normalize
