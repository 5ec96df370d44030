import Covenant.Charset.Big5
import Covenant.Charset.Gb18030
import Covenant.Charset.Jis
import Covenant.Charset.Utf

/-! East Asian charsets, which write a character in one to four bytes. -/

namespace Covenant

inductive Multibyte where
  | shiftJis
  | eucJp
  | big5
  | gb18030
  deriving DecidableEq

namespace Multibyte

/-- The place of a character in a table that is cut into texts. -/
def cell? (c : Char) : List String → Option Nat
  | [] => none
  | s :: rest =>
    let cs := s.toList
    match cs.findIdx? (· == c) with
    | some i => some i
    | none => (cell? c rest).map (cs.length + ·)

/-- A trailing byte from 0x40 on, in which 0x7F is left out. -/
def trail (n : Nat) : UInt8 := byte (if n < 63 then 0x40 + n else 0x41 + n)

/-- Two rows of 94 cells share a leading byte, and the leading bytes leave a gap for kana. -/
def shiftedBytes (i : Nat) : List UInt8 :=
  let lead := i / 188
  let n := i % 188
  [byte (if lead < 31 then 0x81 + lead else 0xC1 + lead), trail n]

def rowBytes (i : Nat) : List UInt8 := [byte (0xA1 + i / 94), byte (0xA1 + i % 94)]

def big5Bytes (i : Nat) : List UInt8 :=
  let n := i % 157
  [byte (0xA1 + i / 157), byte (if n < 63 then 0x40 + n else 0x62 + n)]

/-- The place in a sequence of all that four bytes can be. -/
def fourBytes (i : Nat) : List UInt8 :=
  [byte (0x81 + i / 12600), byte (0x30 + i / 1260 % 10), byte (0x81 + i / 10 % 126),
    byte (0x30 + i % 10)]

/-- The place of a character among those of four bytes: in the lowest plane, they are those that are
left over by the shorter forms. -/
def fourByteIndex (n : Nat) : Nat :=
  if n < 0x10000 then
    let surrogates := if n < 0xD800 then 0 else 0x800
    let shorter := Charset.gb18030.foldl
      (fun sum s => sum + s.toList.countP fun c => c.toNat < n) 0
    n - 0x80 - surrogates - shorter
  else 189000 + (n - 0x10000)

/-- The yen sign and the overline, which take the bytes of a backslash and a tilde. -/
def aliased? (c : Char) : Option Char :=
  if c = '¥' then some '\\' else if c = '‾' then some '~' else none

def isHalfKana (c : Char) : Bool := 0xFF61 ≤ c.toNat && c.toNat ≤ 0xFF9F

def japaneseByte? (c : Char) : Option UInt8 :=
  if c.toNat < 0x80 then some (byte c.toNat) else (aliased? c).map fun c => byte c.toNat

def bytes? (set : Multibyte) (c : Char) : Option (List UInt8) :=
  match set with
  | shiftJis =>
    match japaneseByte? c with
    | some b => some [b]
    | none =>
      if isHalfKana c then some [byte (c.toNat - 0xFEC0)]
      else (cell? c Charset.jis0208).map shiftedBytes
  | eucJp =>
    match japaneseByte? c with
    | some b => some [b]
    | none =>
      if isHalfKana c then some [0x8E, byte (c.toNat - 0xFEC0)]
      else
        match cell? c Charset.jis0208 with
        | some i => some (rowBytes i)
        | none => (cell? c Charset.jis0212).map fun i => 0x8F :: rowBytes i
  | big5 =>
    if c.toNat < 0x80 then some [byte c.toNat] else (cell? c Charset.big5).map big5Bytes
  | gb18030 =>
    if c.toNat < 0x80 then some [byte c.toNat]
    else
      match cell? c Charset.gb18030 with
      | some i => some [byte (0x81 + i / 190), trail (i % 190)]
      | none => some (fourBytes (fourByteIndex c.toNat))

/-- The character that is read from the bytes of a character. -/
def reread (set : Multibyte) (c : Char) : Char :=
  match set with
  | shiftJis | eucJp => (aliased? c).getD c
  | big5 | gb18030 => c

end Multibyte
end Covenant
