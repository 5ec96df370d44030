import Covenant.Digest.Words

namespace Covenant.Digest.Sha3

/-- Twenty-five lanes; the lane in column `x` and row `y` is at `x + 5 * y`. -/
abbrev State := Array (BitVec 64)

def lane (s : State) (x y : Nat) : BitVec 64 := s.getD (x % 5 + 5 * (y % 5)) 0

def build (f : Nat → Nat → BitVec 64) : State :=
  ((List.range 25).map fun i => f (i % 5) (i / 5)).toArray

def theta (s : State) : State :=
  let column (x : Nat) := lane s x 0 ^^^ lane s x 1 ^^^ lane s x 2 ^^^ lane s x 3 ^^^ lane s x 4
  let parities := ((List.range 5).map column).toArray
  let parity (x : Nat) := parities.getD (x % 5) 0
  build fun x y => lane s x y ^^^ parity (x + 4) ^^^ (parity (x + 1)).rotateLeft 1

/-- The places of the lanes on the walk that starts beside the corner, each with its rotation. -/
def walk : Nat → Nat → Nat → Nat → List (Nat × Nat)
  | 0, _, _, _ => []
  | n + 1, t, x, y =>
    (x + 5 * y, (t + 1) * (t + 2) / 2 % 64) :: walk n (t + 1) y ((2 * x + 3 * y) % 5)

def rotations : Array Nat :=
  (walk 24 0 1 0).foldl (fun a e => a.setIfInBounds e.1 e.2) (Array.replicate 25 0)

/-- Rotates each lane and moves it to its new place. -/
def rhoPi (s : State) : State :=
  build fun x y =>
    let from' := (x + 3 * y) % 5 + 5 * x
    (s.getD from' 0).rotateLeft (rotations.getD from' 0)

def chi (s : State) : State :=
  build fun x y => lane s x y ^^^ (~~~lane s (x + 1) y &&& lane s (x + 2) y)

/-- The bits of a shift register, from which the constants of the rounds are taken. -/
def registerBits : Nat → Nat → List Bool
  | 0, _ => []
  | n + 1, r =>
    let next := if r < 128 then 2 * r else (2 * r) ^^^ 0x171
    (r % 2 == 1) :: registerBits n next

def roundBits : Array Bool := (registerBits 168 1).toArray

def roundConstant (round : Nat) : BitVec 64 :=
  (List.range 7).foldl
    (fun c j =>
      if roundBits.getD (7 * round + j) false then c ||| .ofNat 64 (Nat.pow 2 (Nat.pow 2 j - 1))
      else c) 0

def round (s : State) (i : Nat) : State :=
  let t := chi (rhoPi (theta s))
  t.setIfInBounds 0 (t.getD 0 0 ^^^ roundConstant i)

def permute (s : State) : State := (List.range 24).foldl round s

def absorb (s : State) (block : List UInt8) : State :=
  let ws := (littleWords 64 block).toArray
  permute (build fun x y => lane s x y ^^^ ws.getD (x + 5 * y) 0)

/-- Fills a message up to whole blocks between the bits that mark its end. -/
def pad (rate : Nat) (data : List UInt8) : List UInt8 :=
  match rate - 1 - data.length % rate with
  | 0 => data ++ [0x86]
  | n + 1 => data ++ 0x06 :: List.replicate n 0 ++ [0x80]

/-- A digest of the given number of bytes, which is less than a block. -/
def digest (size : Nat) (data : List UInt8) : List UInt8 :=
  let rate := 200 - 2 * size
  let state := (blocks rate (pad rate data)).foldl absorb (Array.replicate 25 0)
  (state.toList.flatMap fun word => littleBytes 8 word.toNat).take size

end Covenant.Digest.Sha3
