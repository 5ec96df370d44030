import Covenant.Digest.Words

namespace Covenant.Digest.Sha1

structure State where
  a : BitVec 32
  b : BitVec 32
  c : BitVec 32
  d : BitVec 32
  e : BitVec 32

def initial : State := ⟨0x67452301, 0xefcdab89, 0x98badcfe, 0x10325476, 0xc3d2e1f0⟩

/-- The message words and those derived from them, the last first. -/
def schedule : Nat → List (BitVec 32) → List (BitVec 32)
  | 0, ws => ws
  | n + 1, ws =>
    let next := (ws.getD 2 0 ^^^ ws.getD 7 0 ^^^ ws.getD 13 0 ^^^ ws.getD 15 0).rotateLeft 1
    schedule n (next :: ws)

/-- The mixed word of a step and its constant. -/
def mix (s : State) (i : Nat) : BitVec 32 × BitVec 32 :=
  match i / 20 with
  | 0 => ((s.b &&& s.c) ||| (~~~s.b &&& s.d), 0x5a827999)
  | 1 => (s.b ^^^ s.c ^^^ s.d, 0x6ed9eba1)
  | 2 => ((s.b &&& s.c) ||| (s.b &&& s.d) ||| (s.c &&& s.d), 0x8f1bbcdc)
  | _ => (s.b ^^^ s.c ^^^ s.d, 0xca62c1d6)

def step (s : State) (input : BitVec 32 × Nat) : State :=
  let (mixed, constant) := mix s input.2
  ⟨s.a.rotateLeft 5 + mixed + s.e + constant + input.1, s.a, s.b.rotateLeft 30, s.c, s.d⟩

def compress (s : State) (block : List UInt8) : State :=
  let ws := (schedule 64 (bigWords 32 block).reverse).reverse
  let t := (ws.zip (List.range 80)).foldl step s
  ⟨s.a + t.a, s.b + t.b, s.c + t.c, s.d + t.d, s.e + t.e⟩

def digest (data : List UInt8) : List UInt8 :=
  let s := (blocks 64 (padMessage 64 8 (bigBytes 8) data)).foldl compress initial
  [s.a, s.b, s.c, s.d, s.e].flatMap fun word => bigBytes 4 word.toNat

end Covenant.Digest.Sha1
