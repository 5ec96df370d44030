import Covenant.Failure

/-! The encodings that write every code point. -/

namespace Covenant

def byte (n : Nat) : UInt8 := UInt8.ofNat n

/-- The code point of a number, unless it is a surrogate or too large. -/
def charOf? (n : Nat) : Option Char :=
  if n < 0xD800 ∨ (0xDFFF < n ∧ n < 0x110000) then some (Char.ofNat n) else none

namespace Utf8

def encodeChar (c : Char) : List UInt8 :=
  let n := c.toNat
  let tail (shift : Nat) : UInt8 := byte (0x80 + n / Nat.pow 2 shift % 64)
  if n < 0x80 then [byte n]
  else if n < 0x800 then [byte (0xC0 + n / 64), tail 0]
  else if n < 0x10000 then [byte (0xE0 + n / 4096), tail 6, tail 0]
  else [byte (0xF0 + n / 262144), tail 12, tail 6, tail 0]

def encode (cs : List Char) : List UInt8 := cs.flatMap encodeChar

/-- The payload of a continuation byte. -/
def tail? (b : UInt8) : Option Nat := if b.toNat / 64 = 2 then some (b.toNat % 64) else none

/-- A code point that is not below the least one its number of bytes is meant for. -/
def charFrom? (least n : Nat) : Option Char := if least ≤ n then charOf? n else none

def decode? : List UInt8 → Option (List Char)
  | [] => some []
  | a :: rest =>
    if a.toNat < 0x80 then do return Char.ofNat a.toNat :: (← decode? rest)
    else if a.toNat < 0xC0 then none
    else if a.toNat < 0xE0 then
      match rest with
      | b :: rest => do
        let n := a.toNat % 32 * 64 + (← tail? b)
        return (← charFrom? 0x80 n) :: (← decode? rest)
      | _ => none
    else if a.toNat < 0xF0 then
      match rest with
      | b :: c :: rest => do
        let n := (a.toNat % 16 * 64 + (← tail? b)) * 64 + (← tail? c)
        return (← charFrom? 0x800 n) :: (← decode? rest)
      | _ => none
    else if a.toNat < 0xF8 then
      match rest with
      | b :: c :: d :: rest => do
        let n := ((a.toNat % 8 * 64 + (← tail? b)) * 64 + (← tail? c)) * 64 + (← tail? d)
        return (← charFrom? 0x10000 n) :: (← decode? rest)
      | _ => none
    else none

end Utf8

/-- The order of the bytes of a larger unit. -/
inductive ByteOrder where
  | little
  | big
  deriving DecidableEq

namespace ByteOrder

def write2 (order : ByteOrder) (n : Nat) : List UInt8 :=
  match order with
  | little => [byte n, byte (n / 256)]
  | big => [byte (n / 256), byte n]

def write4 (order : ByteOrder) (n : Nat) : List UInt8 :=
  match order with
  | little => write2 little n ++ write2 little (n / 65536)
  | big => write2 big (n / 65536) ++ write2 big n

def read2 (order : ByteOrder) (a b : UInt8) : Nat :=
  match order with
  | little => a.toNat + 256 * b.toNat
  | big => 256 * a.toNat + b.toNat

end ByteOrder

/-- The byte order mark. -/
def markCode : Nat := 0xFEFF

namespace Utf16

def encodeChar (order : ByteOrder) (c : Char) : List UInt8 :=
  let n := c.toNat
  if n < 0x10000 then order.write2 n
  else order.write2 (0xD7C0 + n / 1024) ++ order.write2 (0xDC00 + n % 1024)

def encode (order : ByteOrder) (cs : List Char) : List UInt8 := cs.flatMap (encodeChar order)

def units? (order : ByteOrder) : List UInt8 → Option (List Nat)
  | [] => some []
  | a :: b :: rest => (units? order rest).map (order.read2 a b :: ·)
  | _ => none

/-- Joins the surrogate pairs; a surrogate on its own is an error. -/
def join? : List Nat → Option (List Char)
  | [] => some []
  | [n] => (charOf? n).map fun c => [c]
  | n :: m :: rest =>
    if n / 1024 = 54 then
      if m / 1024 = 55 then
        (join? rest).map (Char.ofNat (0x10000 + n % 1024 * 1024 + m % 1024) :: ·)
      else none
    else do return (← charOf? n) :: (← join? (m :: rest))

/-- Reads a text behind a byte order mark. -/
def decodeMarked? : List UInt8 → Option (List Char)
  | 0xFF :: 0xFE :: rest => (units? .little rest).bind join?
  | 0xFE :: 0xFF :: rest => (units? .big rest).bind join?
  | _ => none

end Utf16

namespace Utf32

def encode (order : ByteOrder) (cs : List Char) : List UInt8 :=
  cs.flatMap fun c => order.write4 c.toNat

def decode? (order : ByteOrder) : List UInt8 → Option (List Char)
  | [] => some []
  | a :: b :: c :: d :: rest =>
    let n :=
      match order with
      | .little => order.read2 a b + 65536 * order.read2 c d
      | .big => 65536 * order.read2 a b + order.read2 c d
    do return (← charOf? n) :: (← decode? order rest)
  | _ => none

/-- Reads a text behind a byte order mark. -/
def decodeMarked? : List UInt8 → Option (List Char)
  | 0xFF :: 0xFE :: 0 :: 0 :: rest => decode? .little rest
  | 0 :: 0 :: 0xFE :: 0xFF :: rest => decode? .big rest
  | _ => none

end Utf32
end Covenant
