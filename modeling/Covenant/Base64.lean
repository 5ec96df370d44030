import Covenant.Text

/-! Bytes written with 64 characters. -/

namespace Covenant.Base64

def digit? (c : Char) : Option Nat :=
  if isAsciiUpper c then some (c.toNat - 65)
  else if isAsciiLower c then some (c.toNat - 71)
  else if isAsciiDigit c then some (c.toNat + 4)
  else if c = '+' then some 62
  else if c = '/' then some 63
  else none

def digitChar (n : Nat) : Char :=
  if n < 26 then Char.ofNat (65 + n)
  else if n < 52 then Char.ofNat (71 + n)
  else if n < 62 then Char.ofNat (n - 4)
  else if n = 62 then '+'
  else '/'

/-- Four characters for three bytes; the last group is filled up with equals signs. -/
def encode : List UInt8 → List Char
  | a :: b :: c :: rest =>
    let n := (a.toNat * 256 + b.toNat) * 256 + c.toNat
    digitChar (n / 262144) :: digitChar (n / 4096 % 64) :: digitChar (n / 64 % 64)
      :: digitChar (n % 64) :: encode rest
  | [a, b] =>
    let n := a.toNat * 256 + b.toNat
    [digitChar (n / 1024), digitChar (n / 16 % 64), digitChar (n % 16 * 4), '=']
  | [a] => [digitChar (a.toNat / 4), digitChar (a.toNat % 4 * 16), '=', '=']
  | [] => []

def byteAt (n shift : Nat) : UInt8 := UInt8.ofNat (n >>> shift)

/-- The bytes of whole groups, which only equals signs may follow. Bits that are left over in a
filled-up group may have any value. -/
def decodeGroups? : List Char → Option (List UInt8)
  | [a, b, '=', '='] => do
    let n := (← digit? a) * 64 + (← digit? b)
    return [byteAt n 4]
  | [a, b, c, '='] => do
    let n := ((← digit? a) * 64 + (← digit? b)) * 64 + (← digit? c)
    return [byteAt n 10, byteAt n 2]
  | a :: b :: c :: d :: rest => do
    let n := (((← digit? a) * 64 + (← digit? b)) * 64 + (← digit? c)) * 64 + (← digit? d)
    if rest.all (· == '=') then return [byteAt n 16, byteAt n 8, byteAt n 0]
    else return byteAt n 16 :: byteAt n 8 :: byteAt n 0 :: (← decodeGroups? rest)
  | _ => none

def decode? (cs : List Char) : Option (List UInt8) :=
  if cs.isEmpty then some [] else decodeGroups? cs

end Covenant.Base64
