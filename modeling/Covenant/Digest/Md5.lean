import Covenant.Digest.Words

namespace Covenant.Digest.Md5

structure State where
  a : BitVec 32
  b : BitVec 32
  c : BitVec 32
  d : BitVec 32

def initial : State := ⟨0x67452301, 0xefcdab89, 0x98badcfe, 0x10325476⟩

/-- The integer parts of `2 ^ 32 * |sin i|` for `i` from 1 to 64. -/
def sines : List (BitVec 32) :=
  readWords 32
    "d76aa478 e8c7b756 242070db c1bdceee f57c0faf 4787c62a a8304613 fd469501 698098d8 8b44f7af
    ffff5bb1 895cd7be 6b901122 fd987193 a679438e 49b40821 f61e2562 c040b340 265e5a51 e9b6c7aa
    d62f105d 02441453 d8a1e681 e7d3fbc8 21e1cde6 c33707d6 f4d50d87 455a14ed a9e3e905 fcefa3f8
    676f02d9 8d2a4c8a fffa3942 8771f681 6d9d6122 fde5380c a4beea44 4bdecfa9 f6bb4b60 bebfbc70
    289b7ec6 eaa127fa d4ef3085 04881d05 d9d4d039 e6db99e5 1fa27cf8 c4ac5665 f4292244 432aff97
    ab9423a7 fc93a039 655b59c3 8f0ccc92 ffeff47d 85845dd1 6fa87e4f fe2ce6e0 a3014314 4e0811a1
    f7537e82 bd3af235 2ad7d2bb eb86d391"

/-- The rotations of the four rounds, each used in turn. -/
def rotations : List (List Nat) :=
  [[7, 12, 17, 22], [5, 9, 14, 20], [4, 11, 16, 23], [6, 10, 15, 21]]

/-- The mixed word of a step and the place of the message word it takes. -/
def mix (s : State) (i : Nat) : BitVec 32 × Nat :=
  match i / 16 with
  | 0 => ((s.b &&& s.c) ||| (~~~s.b &&& s.d), i % 16)
  | 1 => ((s.d &&& s.b) ||| (~~~s.d &&& s.c), (5 * i + 1) % 16)
  | 2 => (s.b ^^^ s.c ^^^ s.d, (3 * i + 5) % 16)
  | _ => (s.c ^^^ (s.b ||| ~~~s.d), 7 * i % 16)

def step (block : List (BitVec 32)) (s : State) (i : Nat) : State :=
  let (mixed, place) := mix s i
  let sum := s.a + mixed + sines.getD i 0 + block.getD place 0
  ⟨s.d, s.b + sum.rotateLeft ((rotations.getD (i / 16) []).getD (i % 4) 0), s.b, s.c⟩

def compress (s : State) (block : List UInt8) : State :=
  let t := (List.range 64).foldl (step (littleWords 32 block)) s
  ⟨s.a + t.a, s.b + t.b, s.c + t.c, s.d + t.d⟩

def digest (data : List UInt8) : List UInt8 :=
  let s := (blocks 64 (padMessage 64 8 (littleBytes 8) data)).foldl compress initial
  [s.a, s.b, s.c, s.d].flatMap fun word => littleBytes 4 word.toNat

end Covenant.Digest.Md5
