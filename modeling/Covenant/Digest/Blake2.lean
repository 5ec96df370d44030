import Covenant.Digest.Sha2

namespace Covenant.Digest.Blake2

/-- The orders in which the rounds take the message words, as hexadecimal digits. -/
def orders : List (List Nat) :=
  (words
    "0123456789abcdef ea489fd61c02b753 b8c052fdae367194 7931dcbe265a40f8 905724afe1bc683d
    2c6a0b834d75fe19 c51fed4a0763928b db7ec13950f4862a 6fe9b308c2d714a5 a2847615fb9e3cd0").map fun w =>
      w.map fun c => (hexDigit? c).getD 0

/-- A word size with its number of rounds and rotations. -/
structure Family (w : Nat) where
  rounds : Nat
  r1 : Nat
  r2 : Nat
  r3 : Nat
  r4 : Nat

def large : Family 64 := ⟨12, 32, 24, 16, 63⟩

def small : Family 32 := ⟨10, 16, 12, 8, 7⟩

/-- The working state of sixteen words, four to a row. -/
abbrev State (w : Nat) := Array (BitVec w)

def get (v : State w) (i : Nat) : BitVec w := v.getD i 0

/-- Mixes two message words into four words of the state. -/
def mix (family : Family w) (v : State w) (i j k l : Nat) (x y : BitVec w) : State w :=
  let a := get v i + get v j + x
  let d := (get v l ^^^ a).rotateRight family.r1
  let c := get v k + d
  let b := (get v j ^^^ c).rotateRight family.r2
  let a := a + b + y
  let d := (d ^^^ a).rotateRight family.r3
  let c := c + d
  let b := (b ^^^ c).rotateRight family.r4
  (((v.setIfInBounds i a).setIfInBounds j b).setIfInBounds k c).setIfInBounds l d

/-- The columns and then the diagonals of the state. -/
def quarters : List (Nat × Nat × Nat × Nat) :=
  [(0, 4, 8, 12), (1, 5, 9, 13), (2, 6, 10, 14), (3, 7, 11, 15), (0, 5, 10, 15), (1, 6, 11, 12),
    (2, 7, 8, 13), (3, 4, 9, 14)]

def round (family : Family w) (message : List (BitVec w)) (v : State w) (i : Nat) : State w :=
  let order := orders.getD (i % 10) []
  let word (n : Nat) := message.getD (order.getD n 0) 0
  ((List.range 8).zip quarters).foldl
    (fun v e =>
      mix family v e.2.1 e.2.2.1 e.2.2.2.1 e.2.2.2.2 (word (2 * e.1)) (word (2 * e.1 + 1)))
    v

/-- Mixes one block into the chain; `count` bytes have been read with it. -/
def compress (family : Family w) (chain : List (BitVec w)) (block : List UInt8) (count : Nat)
    (final : Bool) : List (BitVec w) :=
  let tail := Sha2.rootState w 0
  let flip (i : Nat) (x : BitVec w) : BitVec w := tail.getD i 0 ^^^ x
  let start : State w :=
    (chain ++ tail.take 4
      ++ [flip 4 (.ofNat w count), flip 5 (.ofNat w (count >>> w)),
        flip 6 (if final then .allOnes w else 0), flip 7 0]).toArray
  let v := (List.range family.rounds).foldl (round family (littleWords w block)) start
  chain.zipIdx.map fun (x, i) => x ^^^ get v i ^^^ get v (i + 8)

def compressAll (family : Family w) : List (List UInt8) → Nat → List (BitVec w) → List (BitVec w)
  | [], _, chain => chain
  | [last], count, chain =>
    let block := last ++ List.replicate (2 * w - last.length) 0
    compress family chain block (count + last.length) true
  | block :: rest, count, chain =>
    let count := count + block.length
    compressAll family rest count (compress family chain block count false)

/-- The digest without a key, as long as the chain. -/
def digest (family : Family w) (data : List UInt8) : List UInt8 :=
  let size := w
  let parameters : BitVec w := .ofNat w (0x01010000 + size)
  let initial :=
    match Sha2.rootState w 0 with
    | x :: xs => (x ^^^ parameters) :: xs
    | [] => []
  let parts := if data.isEmpty then [[]] else blocks (2 * w) data
  ((compressAll family parts 0 initial).flatMap fun word => littleBytes (w / 8) word.toNat)

end Covenant.Digest.Blake2
