import Covenant.Charset.Multibyte
import Covenant.Charset.SingleByte
import Covenant.Charset.Utf

namespace Covenant

/-- How a charset writes code points. -/
inductive Codec where
  | utf8 (marked : Bool)
  | utf16 (marked : Bool) (order : ByteOrder)
  | utf32 (marked : Bool) (order : ByteOrder)
  | table (codes : CodeMap)
  | multibyte (set : Multibyte)
  | notText

namespace Codec

/-- The codec of a canonical charset name. -/
def named (name : String) : Codec :=
  match name with
  | "utf-8" => .utf8 false
  | "utf-8-sig" => .utf8 true
  | "utf-16" => .utf16 true .little
  | "utf-16-le" => .utf16 false .little
  | "utf-16-be" => .utf16 false .big
  | "utf-32" => .utf32 true .little
  | "utf-32-le" => .utf32 false .little
  | "utf-32-be" => .utf32 false .big
  | "shift_jis" => .multibyte .shiftJis
  | "euc_jp" => .multibyte .eucJp
  | "big5" => .multibyte .big5
  | "gb18030" => .multibyte .gb18030
  | name => ((Charset.singleByte? name).map Codec.table).getD .notText

/-- Whether a charset has all characters of a text. -/
def fits (codec : Codec) (cs : List Char) : Except Failure Bool :=
  match codec with
  | utf8 _ | utf16 _ _ | utf32 _ _ => .ok true
  | table codes => .ok (cs.all fun c => (codes.get? c.toNat).isSome)
  | multibyte set => .ok (cs.all fun c => (set.bytes? c).isSome)
  | notText => .error (.crashed .notCharset)

/-- The text with a question mark for each character the charset does not have. -/
def replaceMissing (codec : Codec) (cs : List Char) : List Char :=
  match codec with
  | table codes => cs.map fun c => if (codes.get? c.toNat).isSome then c else '?'
  | multibyte set => cs.map fun c => if (set.bytes? c).isSome then set.reread c else '?'
  | _ => cs

/-- The bytes of a text, characters that the charset does not have replaced. -/
def encode (codec : Codec) (cs : List Char) : Except Failure (List UInt8) :=
  match codec with
  | utf8 marked => .ok ((if marked then Utf8.encode ['\uFEFF'] else []) ++ Utf8.encode cs)
  | utf16 marked order =>
    .ok ((if marked then order.write2 markCode else []) ++ Utf16.encode order cs)
  | utf32 marked order =>
    .ok ((if marked then order.write4 markCode else []) ++ Utf32.encode order cs)
  | table codes => .ok ((replaceMissing codec cs).filterMap fun c => (codes.get? c.toNat).map byte)
  | multibyte set => .ok (cs.flatMap fun c => (set.bytes? c).getD [byte '?'.toNat])
  | notText => .error (.crashed .notCharset)

end Codec
end Covenant
