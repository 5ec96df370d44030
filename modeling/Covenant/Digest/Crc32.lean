namespace Covenant.Digest.Crc32

/-- The polynomial with its bits in reverse. -/
def polynomial : BitVec 32 := 0xedb88320

def shift (c : BitVec 32) : BitVec 32 := if c.getLsbD 0 then (c >>> 1) ^^^ polynomial else c >>> 1

def shifts : Nat → BitVec 32 → BitVec 32
  | 0, c => c
  | n + 1, c => shifts n (shift c)

def step (c : BitVec 32) (b : UInt8) : BitVec 32 := shifts 8 (c ^^^ .ofNat 32 b.toNat)

def checksum (data : List UInt8) : Nat := (~~~(data.foldl step 0xffffffff)).toNat

end Covenant.Digest.Crc32
