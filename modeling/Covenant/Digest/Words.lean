import Covenant.CodeSet

namespace Covenant.Digest

def blocksFrom (size : Nat) : Nat → List α → List (List α)
  | 0, _ => []
  | _, [] => []
  | fuel + 1, xs => xs.take size :: blocksFrom size fuel (xs.drop size)

/-- Cuts a list into blocks; the last one may be shorter. -/
def blocks (size : Nat) (xs : List α) : List (List α) := blocksFrom size xs.length xs

/-- The number whose bytes are given, the most significant first. -/
def big (data : List UInt8) : Nat := data.foldl (fun n b => 256 * n + b.toNat) 0

/-- The number whose bytes are given, the least significant first. -/
def little (data : List UInt8) : Nat := big data.reverse

def littleBytes (count n : Nat) : List UInt8 :=
  (List.range count).map fun i => UInt8.ofNat (n >>> (8 * i))

def bigBytes (count n : Nat) : List UInt8 := (littleBytes count n).reverse

def bigWords (w : Nat) (data : List UInt8) : List (BitVec w) :=
  (blocks (w / 8) data).map fun b => .ofNat w (big b)

def littleWords (w : Nat) (data : List UInt8) : List (BitVec w) :=
  (blocks (w / 8) data).map fun b => .ofNat w (little b)

/-- Fills a message up to whole blocks: a one bit, zeros, and the length in bits at the end. -/
def padMessage (size lengthSize : Nat) (encodeLength : Nat → List UInt8) (data : List UInt8) :
    List UInt8 :=
  let used := (data.length + 1 + lengthSize) % size
  data ++ 0x80 :: List.replicate ((size - used) % size) 0 ++ encodeLength (8 * data.length)

/-- Words written in hexadecimal. -/
def readWords (w : Nat) (s : String) : List (BitVec w) :=
  (words s).map fun digits => .ofNat w (hexNumber digits)

end Covenant.Digest
