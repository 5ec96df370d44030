import Covenant.Base64
import Covenant.Check.Scalar
import Covenant.Sniff

/-! Binary content, as it is or in base64. -/

namespace Covenant.Check

/-- Whether a media type is one of those given, or of one of the groups given. -/
def mimeAllowed (mime : String) : List Value → Except Failure Bool
  | [] => .ok false
  | .text s :: rest =>
    let accepted := lower (trim s.toList)
    if s != "" && (mime.toList == accepted || (accepted ++ ['/']).isPrefixOf mime.toList)
    then .ok true else mimeAllowed mime rest
  | .bytes data :: rest | .buffer data :: rest =>
    if data.isEmpty then mimeAllowed mime rest else .error (.crashed .wrongKind)
  | v :: rest => if v.isTrue then .error (.crashed .notText) else mimeAllowed mime rest

/-- The bytes that data stands for. -/
def bytesOf? : Value → Option (List UInt8)
  | .text s => some (Utf8.encode s.toList)
  | .bytes data | .buffer data => some data
  | _ => none

/-- A buffer in one of the charsets it is allowed to be in, with its charset. -/
def inCharset (mode : Mode) (charsets : List Value) (names : List String) (content : Content)
    (data : List UInt8) : Except Stop (List UInt8 × String) := do
  match names with
  | [] => return (data, content.charset)
  | name :: _ =>
    if content.charset == Sniff.binary || names.contains content.charset then
      return (data, content.charset)
    else if mode.strict then
      refuse ("Data doesn't respect contract (charset mismatch: expected one of ["
        ++ (← charsetList charsets) ++ "], got '" ++ content.charset ++ "').")
    else return (← (Codec.named name).encode (Sniff.text content.charset data), name)

def binary (mode : Mode) (params : Params) (data : Value) : Outcome := do
  let limits ← Limits.ofParams params
  let mimes := (← params.list "mime").getD []
  let charsets := (← params.list "charset").getD []
  let names ← charsetNames charsets
  match bytesOf? data with
  | none => refuse "Data is not a binary string."
  | some [] => refuse "Binary data is empty."
  | some data =>
    if mode.strict && limits.tooLong data.length then
      refuse "Data size doesn't respect the contract."
    else
      let data := limits.cut data
      if limits.tooShort data.length then refuse "Data size doesn't respect the contract."
      else
        let content := Sniff.guess data
        let allowed ← if mimes.isEmpty then .ok true else mimeAllowed content.mime mimes
        if !allowed then
          refuse ("Data doesn't respect contract (bad MIME type '" ++ content.mime ++ "').")
        else
          let (data, charset) ← inCharset mode charsets names content data
          .ok ⟨.bytes data, .map
            [(.text "binary", .bytes data), (.text "mime", .text content.mime),
              (.text "charset", .text charset)]⟩

namespace Base64

/-- Loosely, blanks and missing padding are passed over, and the alphabet for URLs is read too. -/
def loosen (cs : List Char) : List Char :=
  let cs := (cs.filter (!isBlank ·)).map fun c =>
    if c = '-' then '+' else if c = '_' then '/' else c
  cs ++ List.replicate ((4 - cs.length % 4) % 4) '='

/-- Strictly, only the text that the bytes are encoded as is read. -/
def decode? (strict : Bool) (cs : List Char) : Option (List UInt8) :=
  if strict then
    (Covenant.Base64.decode? cs).bind fun data =>
      if Covenant.Base64.encode data = cs then some data else none
  else Covenant.Base64.decode? (loosen cs)

end Base64

/-- Text in base64; its content is left to the given check of binary content. -/
def base64 (content : Params → Value → Except Failure Result) (mode : Mode) (params : Params)
    (data : Value) : Outcome := do
  let limits ← Limits.ofParams params
  let mimes := (← params.list "mime").getD []
  match data with
  | .text s =>
    match if s == "" then none else Base64.decode? mode.strict s.toList with
    | none => refuse "Data is not a valid base64 string."
    | some bytes =>
      if limits.tooShort bytes.length || limits.tooLong bytes.length then
        refuse "Data size doesn't respect the contract."
      else
        let inner : Params := [("type", .text "binary")]
        let inner := if mimes.isEmpty then inner else inner ++ [("mime", .list mimes)]
        match content inner (.bytes bytes) with
        | .ok result => .ok ⟨data, result.output⟩
        | .error (.rejected message) => refuse message
        | .error failure => .error (.failed failure)
  | _ => refuse "Data is not a valid base64 string."

end Covenant.Check
