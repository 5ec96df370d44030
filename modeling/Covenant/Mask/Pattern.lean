namespace Covenant.Mask

/-- A class of characters named by an escape. -/
inductive Category where
  | digit
  | blank
  | word
  deriving DecidableEq

inductive SetItem where
  | code (c : Nat)
  | range (low high : Nat)
  | category (kind : Category) (negated : Bool)
  deriving DecidableEq

/-- A place that matches no character. -/
inductive Anchor where
  | lineStart
  | lineEnd
  | textStart
  | textEnd
  | wordEdge
  | noWordEdge
  deriving DecidableEq

/-- How a repetition chooses its count: as many as possible, as few as possible, or as many as
possible without going back. -/
inductive Greed where
  | greedy
  | lazy
  | possessive
  deriving DecidableEq

structure Flags where
  ignoreCase : Bool := false
  multiline : Bool := false
  dotAll : Bool := false
  verbose : Bool := false
  ascii : Bool := false
  unicode : Bool := false
  template : Bool := false
  deriving DecidableEq

namespace Flags

def any (f : Flags) : Bool :=
  f.ignoreCase || f.multiline || f.dotAll || f.verbose || f.ascii || f.unicode || f.template

def union (f g : Flags) : Flags :=
  { ignoreCase := f.ignoreCase || g.ignoreCase
    multiline := f.multiline || g.multiline
    dotAll := f.dotAll || g.dotAll
    verbose := f.verbose || g.verbose
    ascii := f.ascii || g.ascii
    unicode := f.unicode || g.unicode
    template := f.template || g.template }

def without (f g : Flags) : Flags :=
  { ignoreCase := f.ignoreCase && !g.ignoreCase
    multiline := f.multiline && !g.multiline
    dotAll := f.dotAll && !g.dotAll
    verbose := f.verbose && !g.verbose
    ascii := f.ascii && !g.ascii
    unicode := f.unicode && !g.unicode
    template := f.template && !g.template }

def overlaps (f g : Flags) : Bool :=
  (f.ignoreCase && g.ignoreCase) || (f.multiline && g.multiline) || (f.dotAll && g.dotAll)
    || (f.verbose && g.verbose)

/-- The flags inside a group that turns some on and some off; an alphabet flag replaces the other.
-/
def change (f on off : Flags) : Flags :=
  let base := if on.ascii || on.unicode then { f with ascii := false, unicode := false } else f
  (base.union on).without off

end Flags

/-- An item of a mask; a sequence of items is a list. -/
inductive Node where
  | code (c : Nat)
  | anyChar
  | set (negated : Bool) (items : List SetItem)
  | anchor (place : Anchor)
  | branch (options : List (List Node))
  | group (index : Option Nat) (on off : Flags) (body : List Node)
  | atomic (body : List Node)
  | look (ahead negated : Bool) (width : Nat) (body : List Node)
  | repeat (greed : Greed) (low : Nat) (high : Option Nat) (body : List Node)
  | ref (index : Nat)
  | cond (index : Nat) (yes no : List Node)

/-- The fewest and the most characters an item can match, no number standing for no limit. -/
structure Width where
  low : Nat
  high : Option Nat
  deriving DecidableEq

namespace Width

def exactly (n : Nat) : Width := ⟨n, some n⟩

def add (a b : Width) : Width :=
  ⟨a.low + b.low, do return (← a.high) + (← b.high)⟩

def either (a b : Width) : Width :=
  ⟨min a.low b.low, do return max (← a.high) (← b.high)⟩

def times (a : Width) (low : Nat) (high : Option Nat) : Width :=
  ⟨a.low * low,
    match high with
    | some n => a.high.map (· * n)
    | none => if a.high = some 0 then some 0 else none⟩

end Width

mutual
def Node.width (groups : Nat → Width) : Node → Width
  | .code _ | .anyChar | .set _ _ => .exactly 1
  | .anchor _ | .look _ _ _ _ => .exactly 0
  | .branch options => optionsWidth groups options
  | .group _ _ _ body | .atomic body => sequenceWidth groups body
  | .repeat _ low high body => (sequenceWidth groups body).times low high
  | .ref index => groups index
  | .cond _ yes [] => ⟨0, (sequenceWidth groups yes).high⟩
  | .cond _ yes no => (sequenceWidth groups yes).either (sequenceWidth groups no)

def sequenceWidth (groups : Nat → Width) : List Node → Width
  | [] => .exactly 0
  | n :: rest => (n.width groups).add (sequenceWidth groups rest)

def optionsWidth (groups : Nat → Width) : List (List Node) → Width
  | [] => .exactly 0
  | [body] => sequenceWidth groups body
  | body :: rest => (sequenceWidth groups body).either (optionsWidth groups rest)
end

end Covenant.Mask
