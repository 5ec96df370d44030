import Covenant.Digest.Words

namespace Covenant.Digest.Sha2

def isPrime (n : Nat) : Bool := 2 ≤ n && (List.range n).all fun d => d < 2 || n % d != 0

/-- The first 80 primes. -/
def primes : List Nat := (List.range 410).filter isPrime

/-- The bits of an integer root below the given one, found from the highest down. -/
def rootFrom (power n : Nat) : Nat → Nat → Nat
  | 0, root => root
  | bit + 1, root =>
    let raised := root + Nat.pow 2 bit
    rootFrom power n bit (if Nat.pow raised power ≤ n then raised else root)

/-- The first `w` bits of the fraction of a root. -/
def rootFraction (power w n : Nat) : BitVec w :=
  .ofNat w (rootFrom power (n * Nat.pow 2 (power * w)) (w + 6) 0)

/-- The constants of the rounds: fractions of the cube roots of the primes. -/
def roundConstants (w rounds : Nat) : List (BitVec w) :=
  (primes.take rounds).map (rootFraction 3 w)

/-- Fractions of the square roots of eight primes. -/
def rootState (w first : Nat) : List (BitVec w) :=
  ((primes.drop first).take 8).map (rootFraction 2 w)

/-- The rotations of one word size; the last of the small ones is a shift. -/
structure Rotations where
  big0 : Nat × Nat × Nat
  big1 : Nat × Nat × Nat
  small0 : Nat × Nat × Nat
  small1 : Nat × Nat × Nat

def rotations32 : Rotations := ⟨(2, 13, 22), (6, 11, 25), (7, 18, 3), (17, 19, 10)⟩

def rotations64 : Rotations := ⟨(28, 34, 39), (14, 18, 41), (1, 8, 7), (19, 61, 6)⟩

def bigSigma (r : Nat × Nat × Nat) (x : BitVec w) : BitVec w :=
  x.rotateRight r.1 ^^^ x.rotateRight r.2.1 ^^^ x.rotateRight r.2.2

def smallSigma (r : Nat × Nat × Nat) (x : BitVec w) : BitVec w :=
  x.rotateRight r.1 ^^^ x.rotateRight r.2.1 ^^^ (x >>> r.2.2)

/-- The message words and those derived from them, the last first. -/
def schedule (r : Rotations) : Nat → List (BitVec w) → List (BitVec w)
  | 0, ws => ws
  | n + 1, ws =>
    let next := smallSigma r.small1 (ws.getD 1 0) + ws.getD 6 0
      + smallSigma r.small0 (ws.getD 14 0) + ws.getD 15 0
    schedule r n (next :: ws)

structure State (w : Nat) where
  a : BitVec w
  b : BitVec w
  c : BitVec w
  d : BitVec w
  e : BitVec w
  f : BitVec w
  g : BitVec w
  h : BitVec w

def step (r : Rotations) (s : State w) (input : BitVec w × BitVec w) : State w :=
  let choice := (s.e &&& s.f) ^^^ (~~~s.e &&& s.g)
  let majority := (s.a &&& s.b) ^^^ (s.a &&& s.c) ^^^ (s.b &&& s.c)
  let first := s.h + bigSigma r.big1 s.e + choice + input.1 + input.2
  ⟨first + bigSigma r.big0 s.a + majority, s.a, s.b, s.c, s.d + first, s.e, s.f, s.g⟩

def State.ofList (xs : List (BitVec w)) : State w :=
  let x (i : Nat) := xs.getD i 0
  ⟨x 0, x 1, x 2, x 3, x 4, x 5, x 6, x 7⟩

def State.toList (s : State w) : List (BitVec w) := [s.a, s.b, s.c, s.d, s.e, s.f, s.g, s.h]

/-- A word size with its constants and rotations. -/
structure Family (w : Nat) where
  constants : List (BitVec w)
  rotations : Rotations

def small : Family 32 := ⟨roundConstants 32 64, rotations32⟩

def large : Family 64 := ⟨roundConstants 64 80, rotations64⟩

def compress (family : Family w) (xs : List (BitVec w)) (block : List UInt8) : List (BitVec w) :=
  let rounds := family.constants.length
  let ws := (schedule family.rotations (rounds - 16) (bigWords w block).reverse).reverse
  let t := (family.constants.zip ws).foldl (step family.rotations) (State.ofList xs)
  (xs.zip t.toList).map fun (x, y) => x + y

/-- The first bytes of the state after all blocks. -/
def digest (family : Family w) (initial : List (BitVec w)) (size : Nat) (data : List UInt8) :
    List UInt8 :=
  let message := padMessage (2 * w) (w / 4) (bigBytes (w / 4)) data
  let state := (blocks (2 * w) message).foldl (compress family) initial
  (state.flatMap fun word => bigBytes (w / 8) word.toNat).take size

def sha256 (data : List UInt8) : List UInt8 := digest small (rootState 32 0) 32 data

/-- The initial state has the second halves of the longer fractions. -/
def sha224 (data : List UInt8) : List UInt8 :=
  digest small ((rootState 64 8).map fun x => x.truncate 32) 28 data

def sha512 (data : List UInt8) : List UInt8 := digest large (rootState 64 0) 64 data

def sha384 (data : List UInt8) : List UInt8 := digest large (rootState 64 8) 48 data

end Covenant.Digest.Sha2
