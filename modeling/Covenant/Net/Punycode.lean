import Covenant.Text

/-! Labels of a host name in ASCII: the basic characters, then where and which others are put in. -/

namespace Covenant.Net.Punycode

def base : Nat := 36

/-- The adaptation of the bias after a delta; the loop halves what is left of it. -/
def scaled : Nat → Nat → Nat → Nat
  | 0, delta, k => k + 36 * delta / (delta + 38)
  | fuel + 1, delta, k =>
    if 455 < delta then scaled fuel (delta / 35) (k + base) else k + 36 * delta / (delta + 38)

def adapt (delta points : Nat) (first : Bool) : Nat :=
  let delta := if first then delta / 700 else delta / 2
  scaled (delta + delta / points) (delta + delta / points) 0

def threshold (k bias : Nat) : Nat :=
  if k ≤ bias + 1 then 1 else if bias + 26 ≤ k then 26 else k - bias

def digitChar (d : Nat) : Char := Char.ofNat (if d < 26 then 97 + d else 22 + d)

def digitValue? (c : Char) : Option Nat :=
  if isAsciiLower c then some (c.toNat - 97)
  else if isAsciiUpper c then some (c.toNat - 65)
  else if isAsciiDigit c then some (c.toNat - 22)
  else none

/-- A number with digits whose weights depend on the bias. -/
def encodeNumber (bias : Nat) : Nat → Nat → Nat → List Char
  | 0, _, _ => []
  | fuel + 1, q, k =>
    let t := threshold k bias
    if q < t then [digitChar q]
    else
      digitChar (t + (q - t) % (base - t))
        :: encodeNumber bias fuel ((q - t) / (base - t)) (k + base)

/-- How far the encoder has come: what is to be skipped before the next character. -/
structure Progress where
  delta : Nat
  bias : Nat
  handled : Nat
  first : Bool
  output : List Char

/-- One pass over the text for one code point, the least that is left. -/
def encodePoint (point : Nat) (p : Progress) (n : Nat) : Progress :=
  if n < point then { p with delta := p.delta + 1 }
  else if n = point then
    { delta := 0
      bias := adapt p.delta (p.handled + 1) p.first
      handled := p.handled + 1
      first := false
      output := p.output ++ encodeNumber p.bias (p.delta + 1) p.delta base }
  else p

/-- Passes over the text for all code points that are not basic, in increasing order. -/
def encodePoints (ns : List Nat) : List Nat → Nat → Progress → Progress
  | [], _, p => p
  | point :: rest, next, p =>
    let p := { p with delta := p.delta + (point - next) * (p.handled + 1) }
    let p := ns.foldl (encodePoint point) p
    encodePoints ns rest (point + 1) { p with delta := p.delta + 1 }

def encode (cs : List Char) : List Char :=
  let ns := cs.map Char.toNat
  let basic := cs.filter (·.toNat < 128)
  let points := ((ns.filter (128 ≤ ·)).mergeSort (· ≤ ·)).eraseDups
  let start := if basic.isEmpty then [] else basic ++ ['-']
  (encodePoints ns points 128 ⟨0, 72, basic.length, true, start⟩).output

/-- The value of the digits of one number, and the rest of the text. -/
def decodeNumber? (bias : Nat) : List Char → Nat → Nat → Nat → Option (Nat × List Char)
  | [], _, _, _ => none
  | c :: cs, value, weight, k =>
    (digitValue? c).bind fun d =>
      let t := threshold k bias
      let value := value + d * weight
      if d < t then some (value, cs)
      else decodeNumber? bias cs value (weight * (base - t)) (k + base)

/-- Puts characters in one after another; a number counts the places and code points to be skipped.
-/
def decodeFrom? : Nat → List Char → List Nat → Nat → Nat → Nat → Bool → Option (List Nat)
  | 0, _, ns, _, _, _, _ => some ns
  | _, [], ns, _, _, _, _ => some ns
  | fuel + 1, cs, ns, point, place, bias, first =>
    (decodeNumber? bias cs 0 1 base).bind fun (delta, rest) =>
      let count := ns.length + 1
      let point := point + (place + delta) / count
      let i := (place + delta) % count
      if 0x110000 ≤ point then none
      else
        decodeFrom? fuel rest (ns.take i ++ point :: ns.drop i) point (i + 1)
          (adapt delta count first) false

def splitLastDash (cs : List Char) : List Char × List Char :=
  let tail := cs.reverse.takeWhile (· != '-')
  if tail.length = cs.length then ([], cs)
  else ((cs.take (cs.length - tail.length - 1)), tail.reverse)

/-- The text that is encoded, if every number is complete and every code point a character. -/
def decode? (cs : List Char) : Option (List Char) := do
  let (basic, rest) := splitLastDash cs
  let ns ← decodeFrom? rest.length rest (basic.map Char.toNat) 128 0 72 true
  if ns.all fun n => n < 0xD800 || 0xDFFF < n then return ns.map Char.ofNat else none

end Covenant.Net.Punycode
