import Covenant.Decimal.Numeral
import Covenant.Mask.Pattern
import Covenant.Value.Text

/-! Reading masks: the grammar with its error messages and the places they name. -/

namespace Covenant.Mask

/-- Why a text is no mask. -/
inductive Flaw where
  | invalid (message : String) (place : Option Nat)
  | countTooLarge
  | alphabetConflict

/-- A character, or a backslash with the character behind it. -/
inductive Token where
  | char (c : Char)
  | escape (c : Char)
  | lone
  deriving DecidableEq

namespace Token

def width : Token → Nat
  | char _ => 1
  | escape _ => 2
  | lone => 1

def text : Token → List Char
  | char c => [c]
  | escape c => ['\\', c]
  | lone => ['\\']

def ofChars : List Char → List Token
  | [] => []
  | ['\\'] => [lone]
  | '\\' :: c :: rest => escape c :: ofChars rest
  | c :: rest => char c :: ofChars rest

end Token

structure State where
  rest : List Token
  place : Nat := 0
  flags : Flags := {}
  names : List (String × Nat) := []
  /-- The widths of the groups so far, none for an open group. Group 0 is the whole mask. -/
  widths : Array (Option Width) := #[none]
  /-- The number of groups before the outermost lookbehind that is open. -/
  behindFrom : Option Nat := none
  /-- Group numbers used in conditions, with the places of their first use. -/
  conditions : List (Nat × Nat) := []
  /-- Whether some lookbehind matches texts of different lengths. -/
  looseBehind : Bool := false

abbrev Reader := StateT State (Except Flaw)

namespace Reader

/-- Fails at a place so many characters back. -/
def fail (message : String) (back : Nat := 0) : Reader α := do
  throw (.invalid message (some ((← get).place - back)))

def peek : Reader (Option Token) := do return (← get).rest.head?

def isNext (c : Char) : Reader Bool := do return (← peek) == some (.char c)

/-- Moves past a token; a lone backslash fails as soon as it comes next. -/
def advance : Reader (Option Token) := do
  let s ← get
  match s.rest with
  | [] => return none
  | t :: rest =>
    let place := s.place + t.width
    if rest.head? == some .lone then
      throw (.invalid "bad escape (end of pattern)" (some place))
    set { s with rest := rest, place := place }
    return some t

def accept (c : Char) : Reader Bool := do
  if ← isNext c then
    let _ ← advance
    return true
  else return false

/-- At most so many characters of a class. -/
def takeWhile (p : Char → Bool) : Nat → Reader (List Char)
  | 0 => return []
  | n + 1 => do
    match ← peek with
    | some (.char c) =>
      if p c then
        let _ ← advance
        return c :: (← takeWhile p n)
      else return []
    | _ => return []

/-- The text up to a terminator, which must not be empty. -/
def takeUntil (terminator : Char) (what : String) : Nat → List Char → Reader (List Char)
  | 0, taken => return taken
  | n + 1, taken => do
    match ← advance with
    | none =>
      if taken.isEmpty then fail ("missing " ++ what)
      else fail ("missing " ++ terminator.toString ++ ", unterminated name") taken.length
    | some t =>
      if t == .char terminator then
        if taken.isEmpty then fail ("missing " ++ what) 1 else return taken
      else takeUntil terminator what n (taken ++ t.text)

def rawLength : Reader Nat := do return (← get).rest.length

end Reader

open Reader

def quotedName (name : List Char) : String := String.ofList (Value.quoted name)

def isNameStart (c : Char) : Bool :=
  c == '_' || isAsciiLetter c || (128 ≤ c.toNat && isAlphanumeric c && !isDecimal c)

def isIdentifier : List Char → Bool
  | [] => false
  | c :: cs => isNameStart c && cs.all fun c => c == '_' || isAlphanumeric c

def checkName (name : List Char) : Reader Unit := do
  if isIdentifier name then return ()
  else fail ("bad character in group name " ++ quotedName name) (name.length + 1)

def isClosed (s : State) (index : Nat) : Bool := (s.widths.getD index none).isSome

/-- A lookbehind may only refer to groups that were closed before it. -/
def checkBehind (index : Nat) : Reader Unit := do
  let s ← get
  match s.behindFrom with
  | none => return ()
  | some start =>
    if !isClosed s index then fail "cannot refer to an open group"
    else if start ≤ index then
      fail "cannot refer to group defined in the same lookbehind subpattern"
    else return ()

def octalValue (cs : List Char) : Nat := cs.foldl (fun n c => 8 * n + (c.toNat - 48)) 0

def decimalValue (cs : List Char) : Nat := cs.foldl (fun n c => 10 * n + (c.toNat - 48)) 0

def isOctalDigit (c : Char) : Bool := 48 ≤ c.toNat && c.toNat ≤ 55

def controlCode? : Char → Option Nat
  | 'a' => some 7
  | 'b' => some 8
  | 'f' => some 12
  | 'n' => some 10
  | 'r' => some 13
  | 't' => some 9
  | 'v' => some 11
  | '\\' => some 92
  | _ => none

def category? : Char → Option SetItem
  | 'd' => some (.category .digit false)
  | 'D' => some (.category .digit true)
  | 's' => some (.category .blank false)
  | 'S' => some (.category .blank true)
  | 'w' => some (.category .word false)
  | 'W' => some (.category .word true)
  | _ => none

def anchor? : Char → Option Anchor
  | 'A' => some .textStart
  | 'Z' => some .textEnd
  | 'b' => some .wordEdge
  | 'B' => some .noWordEdge
  | _ => none

/-- An escape with a fixed count of hexadecimal digits. -/
def hexEscape (kind : Char) (count : Nat) : Reader Nat := do
  let ds ← takeWhile isHexDigit count
  if ds.length < count then
    fail ("incomplete escape " ++ String.ofList ('\\' :: kind :: ds)) (2 + ds.length)
  else return hexNumber ds

/-- The escapes that mean the same inside and outside sets: hexadecimal codes and named characters.
-/
def codeEscape? (c : Char) : Option (Reader Nat) :=
  match c with
  | 'x' => some (hexEscape 'x' 2)
  | 'u' => some (hexEscape 'u' 4)
  | 'U' => some do
    let n ← hexEscape 'U' 8
    if 0x110000 ≤ n then
      fail ("bad escape " ++ String.ofList ('\\' :: 'U' :: hexDigits 8 n)) 10
    else return n
  | 'N' => some do
    if ← accept '\x7b' then
      let name ← takeUntil '\x7d' "character name" ((← rawLength) + 1) []
      fail ("undefined character name " ++ quotedName name) (name.length + 4)
    else fail "missing \x7b"
  | _ => none

def badEscape (text : List Char) : Reader α :=
  fail ("bad escape " ++ String.ofList text) text.length

def octalTooLarge (text : List Char) : Reader α :=
  fail ("octal escape value " ++ String.ofList text ++ " outside of range 0-0o377") text.length

def setEscape (c : Char) : Reader SetItem := do
  match controlCode? c, category? c, codeEscape? c with
  | some n, _, _ => return .code n
  | _, some item, _ => return item
  | _, _, some read => return .code (← read)
  | none, none, none =>
    if isOctalDigit c then
      let ds := c :: (← takeWhile isOctalDigit 2)
      let n := octalValue ds
      if 0o377 < n then octalTooLarge ('\\' :: ds) else return .code n
    else if isAsciiDigit c || isAsciiLetter c then badEscape ['\\', c]
    else return .code c.toNat

def groupRef (text : List Char) (index : Nat) : Reader Node := do
  let s ← get
  if index < s.widths.size then
    if !isClosed s index then fail "cannot refer to an open group" text.length
    else
      checkBehind index
      return .ref index
  else fail ("invalid group reference " ++ toString index) (text.length - 1)

/-- Digits behind a backslash: an octal code of three digits, or a group number. -/
def numberEscape (c : Char) : Reader Node := do
  match ← peek with
  | some (.char d) =>
    if isAsciiDigit d then
      let _ ← advance
      if isOctalDigit c && isOctalDigit d then
        match ← takeWhile isOctalDigit 1 with
        | [e] =>
          let n := octalValue [c, d, e]
          if 0o377 < n then octalTooLarge ['\\', c, d, e] else return .code n
        | _ => groupRef ['\\', c, d] (decimalValue [c, d])
      else groupRef ['\\', c, d] (decimalValue [c, d])
    else groupRef ['\\', c] (decimalValue [c])
  | _ => groupRef ['\\', c] (decimalValue [c])

def itemEscape (c : Char) : Reader Node := do
  match category? c, anchor? c, controlCode? c, codeEscape? c with
  | some item, _, _, _ => return .set false [item]
  | _, some place, _, _ => return .anchor place
  | _, _, some n, _ => return .code n
  | _, _, _, some read => return .code (← read)
  | none, none, none, none =>
    if c = '0' then return .code (octalValue (c :: (← takeWhile isOctalDigit 2)))
    else if isAsciiDigit c then numberEscape c
    else if isAsciiLetter c then badEscape ['\\', c]
    else return .code c.toNat

def setMember (t : Token) : Reader SetItem :=
  match t with
  | .char c => return .code c.toNat
  | .escape c => setEscape c
  | .lone => return .code 92

/-- The rest of a character set that was opened at a place; its members so far are in reverse. -/
def readSet (opened : Nat) : Nat → List SetItem → Reader (List SetItem)
  | 0, items => return items
  | n + 1, items => do
    let unterminated : Reader (List SetItem) :=
      throw (.invalid "unterminated character set" (some opened))
    match ← advance with
    | none => unterminated
    | some t =>
      if t == .char ']' && !items.isEmpty then return items.reverse
      else
        let first ← setMember t
        if ← accept '-' then
          match ← advance with
          | none => unterminated
          | some u =>
            if u == .char ']' then return (.code 45 :: first :: items).reverse
            else
              let second ← setMember u
              match first, second with
              | .code low, .code high =>
                if high < low then badRange t u
                else readSet opened n (.range low high :: items)
              | _, _ => badRange t u
        else readSet opened n (first :: items)
where
  badRange (t u : Token) : Reader (List SetItem) :=
    fail ("bad character range " ++ String.ofList (t.text ++ '-' :: u.text))
      (t.width + 1 + u.width)

/-- Counts from this one on are refused. -/
def countLimit : Nat := 4294967295

/-- What the text behind an opening brace says about a count. -/
inductive Braces where
  | literal
  | count (low : Nat) (high : Option Nat)

def readBraces : Reader Braces := do
  let saved ← get
  if ← isNext '\x7d' then return .literal
  let size ← rawLength
  let low ← takeWhile isAsciiDigit size
  let high ← if ← accept ',' then takeWhile isAsciiDigit size else pure low
  if ← accept '\x7d' then
    let lowCount := decimalValue low
    let highCount := decimalValue high
    if countLimit ≤ lowCount || countLimit ≤ highCount then throw .countTooLarge
    if high.isEmpty then return .count lowCount none
    if highCount < lowCount then
      throw (.invalid "min repeat greater than max repeat" (some saved.place))
    return .count lowCount (some highCount)
  else
    set saved
    return .literal

def flag? : Char → Option Flags
  | 'i' => some { ignoreCase := true }
  | 'm' => some { multiline := true }
  | 's' => some { dotAll := true }
  | 'x' => some { verbose := true }
  | 'a' => some { ascii := true }
  | 't' => some { template := true }
  | 'u' => some { unicode := true }
  | _ => none

def isFlagLetter (t : Token) : Bool :=
  match t with
  | .char c => c == 'L' || (flag? c).isSome
  | _ => false

def isLetterToken : Token → Bool
  | .char c => isAlphanumeric c && !isDecimal c
  | _ => false

def flagOf (t : Token) : Flags :=
  match t with
  | .char c => (flag? c).getD {}
  | _ => {}

/-- The flags turned on from a letter on, with the character that ends them. -/
def flagsOn : Nat → Flags → Token → Reader (Flags × Token)
  | 0, on, t => return (on, t)
  | n + 1, on, t => do
    if t == .char 'L' then
      fail "bad inline flags: cannot use 'L' flag with a str pattern"
    let flag := flagOf t
    let on := on.union flag
    if (flag.ascii && on.unicode) || (flag.unicode && on.ascii) then
      fail "bad inline flags: flags 'a', 'u' and 'L' are incompatible"
    match ← advance with
    | none => fail "missing -, : or )"
    | some u =>
      if u == .char ')' || u == .char '-' || u == .char ':' then return (on, u)
      else if isFlagLetter u then flagsOn n on u
      else fail (if isLetterToken u then "unknown flag" else "missing -, : or )") u.width

/-- The flags turned off from a letter on, up to a colon. -/
def flagsOff : Nat → Flags → Token → Reader Flags
  | 0, off, _ => return off
  | n + 1, off, t => do
    let flag := flagOf t
    if flag.ascii || flag.unicode || t == .char 'L' then
      fail "bad inline flags: cannot turn off flags 'a', 'u' and 'L'"
    let off := off.union flag
    match ← advance with
    | none => fail "missing :"
    | some u =>
      if u == .char ':' then return off
      else if isFlagLetter u then flagsOff n off u
      else fail (if isLetterToken u then "unknown flag" else "missing :") u.width

/-- The flags of a group, or none when they hold for the whole mask. -/
def readFlags (t : Token) : Reader (Option (Flags × Flags)) := do
  let size := (← rawLength) + 1
  let (on, t) ← if t == .char '-' then pure ({}, t) else flagsOn size {} t
  if t == .char ')' then
    modify fun s => { s with flags := s.flags.union on }
    return none
  if on.template then fail "bad inline flags: cannot turn on global flag" 1
  let off ← if t == .char '-' then
      match ← advance with
      | none => fail "missing flag"
      | some u =>
        if isFlagLetter u then flagsOff size {} u
        else fail (if isLetterToken u then "unknown flag" else "missing flag") u.width
    else pure {}
  if off.template then fail "bad inline flags: cannot turn off global flag" 1
  if on.overlaps off then fail "bad inline flags: flag turned on and off" 1
  return some (on, off)

def skipComment (opened : Nat) : Nat → Reader Unit
  | 0 => return ()
  | n + 1 => do
    match ← advance with
    | none => throw (.invalid "missing ), unterminated comment" (some opened))
    | some t => if t == .char ')' then return () else skipComment opened n

/-- Skips a remark up to the end of its line. -/
def skipRemark : Nat → Reader Unit
  | 0 => return ()
  | n + 1 => do
    match ← advance with
    | none => return ()
    | some t => if t == .char '\n' then return () else skipRemark n

def isVerboseBlank (c : Char) : Bool := c == ' ' || (9 ≤ c.toNat && c.toNat ≤ 13)

def openGroup (name : Option (List Char)) : Reader Nat := do
  let s ← get
  let index := s.widths.size
  match name with
  | none =>
    set { s with widths := s.widths.push none }
    return index
  | some name =>
    let key := String.ofList name
    match s.names.find? (·.1 == key) with
    | some (_, old) =>
      fail ("redefinition of group name " ++ quotedName name ++ " as group " ++ toString index
        ++ "; was group " ++ toString old) (name.length + 1)
    | none =>
      set { s with widths := s.widths.push none, names := (key, index) :: s.names }
      return index

def groupWidth (s : State) (index : Nat) : Width := (s.widths.getD index none).getD (.exactly 0)

def closeGroup (index : Nat) (body : List Node) : Reader Unit :=
  modify fun s =>
    { s with widths := s.widths.setIfInBounds index (some (sequenceWidth (groupWidth s) body)) }

def namedGroup (name : List Char) : Reader Nat := do
  match (← get).names.find? (·.1 == String.ofList name) with
  | some (_, index) => return index
  | none => fail ("unknown group name " ++ quotedName name) (name.length + 1)

/-- The group that a condition names or numbers. -/
def conditionGroup (name : List Char) : Reader Nat := do
  if isIdentifier name then namedGroup name
  else
    match Numeral.natural? name with
    | none => fail ("bad character in group name " ++ quotedName name) (name.length + 1)
    | some index =>
      if index = 0 then fail "bad group number" (name.length + 1)
      else if 2147483647 ≤ index then
        fail ("invalid group reference " ++ toString index) (name.length + 1)
      else
        modify fun s =>
          if s.conditions.any (·.1 == index) then s
          else { s with conditions := s.conditions ++ [(index, s.place - name.length - 1)] }
        return index

def expectClose (opened : Nat) : Reader Unit := do
  if ← accept ')' then return ()
  else throw (.invalid "missing ), unterminated subpattern" (some opened))

def quantified (place : Nat) (last : Option Node) : Reader Node := do
  match last with
  | none | some (.anchor _) => throw (.invalid "nothing to repeat" (some place))
  | some (.repeat _ _ _ _) => throw (.invalid "multiple repeat" (some place))
  | some node => return node

def readGreed : Reader Greed := do
  if ← accept '?' then return .lazy
  else if ← accept '+' then return .possessive
  else return .greedy

/-- A repetition of the last item, read behind its count. -/
def repeatLast (place low : Nat) (high : Option Nat) (items : List Node) : Reader (List Node) := do
  let node ← quantified place items.head?
  return .repeat (← readGreed) low high [node] :: items.tail

/-- Whether blanks and remarks are skipped: at the top level as the flags for the whole mask say. -/
def remarksAllowed (verbose top : Bool) : Reader Bool := do
  let flags := (← get).flags
  return if top then flags.verbose else verbose

mutual
/-- Alternatives, at the top level or in a group. -/
def readUnion : Nat → Bool → Bool → Reader (List Node)
  | 0, _, _ => return []
  | n + 1, verbose, top => do
    let first ← readSequence n verbose top []
    if ← isNext '|' then return [.branch (first :: (← readOptions n verbose top))]
    else return first

def readOptions : Nat → Bool → Bool → Reader (List (List Node))
  | 0, _, _ => return []
  | n + 1, verbose, top => do
    if ← accept '|' then
      let verbose ← remarksAllowed verbose top
      let option ← readSequence n verbose false []
      return option :: (← readOptions n verbose top)
    else return []

/-- Items up to a bar, a closing parenthesis or the end; those read so far are in reverse.
Flags for the whole mask may only come before its first item. -/
def readSequence : Nat → Bool → Bool → List Node → Reader (List Node)
  | 0, _, _, items => return items.reverse
  | n + 1, verbose, top, items => do
    match ← peek with
    | none | some (.char '|') | some (.char ')') => return items.reverse
    | some t =>
      let place := (← get).place
      let _ ← advance
      match t with
      | .escape c => do
        let node ← itemEscape c
        readSequence n verbose top (node :: items)
      | .lone => return items.reverse
      | .char c =>
        if verbose && isVerboseBlank c then readSequence n verbose top items
        else if verbose && c == '#' then do
          skipRemark ((← rawLength) + 1)
          readSequence n verbose top items
        else if c = '.' then readSequence n verbose top (.anyChar :: items)
        else if c = '^' then readSequence n verbose top (.anchor .lineStart :: items)
        else if c = '$' then readSequence n verbose top (.anchor .lineEnd :: items)
        else if c = '*' then do
          readSequence n verbose top (← repeatLast place 0 none items)
        else if c = '+' then do
          readSequence n verbose top (← repeatLast place 1 none items)
        else if c = '?' then do
          readSequence n verbose top (← repeatLast place 0 (some 1) items)
        else if c = '\x7b' then do
          match ← readBraces with
          | .literal => readSequence n verbose top (.code c.toNat :: items)
          | .count low high => readSequence n verbose top (← repeatLast place low high items)
        else if c = '[' then do
          let negated ← accept '^'
          let members ← readSet place ((← rawLength) + 1) []
          readSequence n verbose top (.set negated members :: items)
        else if c = '(' then do
          match ← readGroup n verbose (top && items.isEmpty) place with
          | some node => readSequence n verbose top (node :: items)
          | none => do
            let verbose ← remarksAllowed verbose top
            readSequence n verbose top items
        else readSequence n verbose top (.code c.toNat :: items)

/-- The rest of a parenthesis; a comment and flags for the whole mask are no items. -/
def readGroup : Nat → Bool → Bool → Nat → Reader (Option Node)
  | 0, _, _, _ => return none
  | n + 1, verbose, first, opened => do
    if ← accept '?' then
      match ← advance with
      | none => fail "unexpected end of pattern"
      | some (.char 'P') =>
        if ← accept '<' then
          let name ← takeUntil '>' "group name" ((← rawLength) + 1) []
          checkName name
          readCapture n verbose opened (some name)
        else if ← accept '=' then
          let name ← takeUntil ')' "group name" ((← rawLength) + 1) []
          checkName name
          let index ← namedGroup name
          if !isClosed (← get) index then
            fail "cannot refer to an open group" (name.length + 1)
          checkBehind index
          return some (.ref index)
        else
          match ← advance with
          | none => fail "unexpected end of pattern"
          | some t => fail ("unknown extension ?P" ++ String.ofList t.text) (t.width + 2)
      | some (.char ':') => readPlain n verbose opened {} {}
      | some (.char '#') =>
        skipComment opened ((← rawLength) + 1)
        return none
      | some (.char '=') => readLook n verbose opened true false
      | some (.char '!') => readLook n verbose opened true true
      | some (.char '<') =>
        match ← advance with
        | none => fail "unexpected end of pattern"
        | some (.char '=') => readLook n verbose opened false false
        | some (.char '!') => readLook n verbose opened false true
        | some t => fail ("unknown extension ?<" ++ String.ofList t.text) (t.width + 2)
      | some (.char '(') =>
        let name ← takeUntil ')' "group name" ((← rawLength) + 1) []
        let index ← conditionGroup name
        checkBehind index
        let yes ← readSequence n verbose false []
        let no ← if ← accept '|' then
            let no ← readSequence n verbose false []
            if ← isNext '|' then fail "conditional backref with more than two branches"
            pure no
          else pure []
        expectClose opened
        return some (.cond index yes no)
      | some (.char '>') =>
        let body ← readUnion n verbose false
        expectClose opened
        return some (.atomic body)
      | some t =>
        if isFlagLetter t || t == .char '-' then
          match ← readFlags t with
          | none =>
            if first then return none
            else throw (.invalid "global flags not at the start of the expression" (some opened))
          | some (on, off) =>
            readPlain n ((verbose || on.verbose) && !off.verbose) opened on off
        else fail ("unknown extension ?" ++ String.ofList t.text) (t.width + 1)
    else readCapture n verbose opened none

def readCapture : Nat → Bool → Nat → Option (List Char) → Reader (Option Node)
  | 0, _, _, _ => return none
  | n + 1, verbose, opened, name => do
    let index ← openGroup name
    let body ← readUnion n verbose false
    expectClose opened
    closeGroup index body
    return some (.group (some index) {} {} body)

def readPlain : Nat → Bool → Nat → Flags → Flags → Reader (Option Node)
  | 0, _, _, _, _ => return none
  | n + 1, verbose, opened, on, off => do
    let body ← readUnion n verbose false
    expectClose opened
    return some (.group none on off body)

def readLook : Nat → Bool → Nat → Bool → Bool → Reader (Option Node)
  | 0, _, _, _, _ => return none
  | n + 1, verbose, opened, ahead, negated => do
    let outer := (← get).behindFrom
    if !ahead && outer.isNone then
      modify fun s => { s with behindFrom := some s.widths.size }
    let body ← readUnion n verbose false
    if !ahead then modify fun s => { s with behindFrom := outer }
    expectClose opened
    let s ← get
    let width := sequenceWidth (groupWidth s) body
    if !ahead && width.high != some width.low then set { s with looseBehind := true }
    return some (.look ahead negated width.low body)
end

structure Compiled where
  flags : Flags
  items : List Node

def readAll (size : Nat) : Reader Compiled := do
  if (← peek) == some .lone then throw (.invalid "bad escape (end of pattern)" (some 0))
  let items ← readUnion (6 * size + 6) false true
  let s ← get
  if s.flags.ascii && s.flags.unicode then throw .alphabetConflict
  if s.rest.isEmpty then pure () else fail "unbalanced parenthesis"
  match s.conditions.find? fun c => s.widths.size ≤ c.1 with
  | some (index, place) =>
    throw (.invalid ("invalid group reference " ++ toString index) (some place))
  | none => pure ()
  if s.looseBehind then throw (.invalid "look-behind requires fixed-width pattern" none)
  return ⟨s.flags, items⟩

def read (cs : List Char) : Except Flaw Compiled :=
  let tokens := Token.ofChars cs
  (readAll tokens.length).run' { rest := tokens }

/-- The message of a flaw; in a mask of several lines a place is also given by line and column. -/
def describe (cs : List Char) (message : String) (place : Option Nat) : String :=
  match place with
  | none => message
  | some n =>
    let before := cs.take n
    let line := before.count '\n' + 1
    let column := (before.reverse.takeWhile (· != '\n')).length + 1
    let at_ := message ++ " at position " ++ toString n
    if cs.contains '\n' then
      at_ ++ " (line " ++ toString line ++ ", column " ++ toString column ++ ")"
    else at_

end Covenant.Mask
