import Covenant.Charset.Utf

/-! Guessing what a buffer holds. -/

namespace Covenant

/-- What a buffer seems to hold: a media type, and a charset when it is text. -/
structure Content where
  mime : String
  charset : String
  deriving DecidableEq

namespace Sniff

def binary : String := "binary"

/-- A pattern of bytes, some of them free, and the least length of a buffer that shows it. -/
structure Magic where
  mime : String
  pattern : List (Option UInt8)
  size : Nat := 0

def exactly (bs : List UInt8) : List (Option UInt8) := bs.map some

def ascii (s : String) : List (Option UInt8) := s.toList.map fun c => some (byte c.toNat)

def free (n : Nat) : List (Option UInt8) := List.replicate n none

/-- The beginnings of known formats, in the order in which they are tried. -/
def magics : List Magic :=
  [⟨"image/jpeg", exactly [0xFF, 0xD8, 0xFF], 0⟩,
    ⟨"image/png", exactly [0x89] ++ ascii "PNG", 0⟩,
    ⟨"image/gif", ascii "GIF", 0⟩,
    ⟨"image/webp", ascii "RIFF" ++ free 4 ++ ascii "WEBPVP", 0⟩,
    ⟨"image/bmp", ascii "BM", 0⟩,
    ⟨"image/vnd.adobe.photoshop", ascii "8BPS", 0⟩,
    ⟨"image/x-icon", exactly [0, 0, 1, 0], 0⟩,
    ⟨"audio/mpeg", ascii "ID3", 0⟩,
    ⟨"audio/mpeg", exactly [0xFF, 0xF2], 3⟩,
    ⟨"audio/mpeg", exactly [0xFF, 0xF3], 3⟩,
    ⟨"audio/mpeg", exactly [0xFF, 0xFB], 3⟩,
    ⟨"audio/ogg", ascii "OggS", 0⟩,
    ⟨"audio/x-flac", ascii "fLaC", 0⟩,
    ⟨"audio/x-wav", ascii "RIFF" ++ free 4 ++ ascii "WAVE", 0⟩,
    ⟨"video/x-flv", ascii "FLV" ++ exactly [1], 0⟩]
  ++ ([3, 5, 7].flatMap fun a => [4, 6, 8].map fun b =>
    ⟨"application/zip", ascii "PK" ++ exactly [a, b], 0⟩)
  ++ [⟨"application/x-rar-compressed", ascii "Rar!" ++ exactly [0x1A, 7, 0], 0⟩,
    ⟨"application/x-rar-compressed", ascii "Rar!" ++ exactly [0x1A, 7, 1], 0⟩,
    ⟨"application/gzip", exactly [0x1F, 0x8B, 8], 0⟩,
    ⟨"application/x-bzip2", ascii "BZh", 0⟩,
    ⟨"application/x-7z-compressed", ascii "7z" ++ exactly [0xBC, 0xAF, 0x27, 0x1C], 0⟩,
    ⟨"application/pdf", ascii "%PDF", 0⟩,
    ⟨"application/pdf", exactly [0xEF, 0xBB, 0xBF] ++ ascii "%PDF", 0⟩,
    ⟨"application/x-msdownload", ascii "MZ", 0⟩,
    ⟨"application/x-shockwave-flash", ascii "FWS", 0⟩,
    ⟨"application/x-shockwave-flash", ascii "CWS", 0⟩,
    ⟨"application/rtf", ascii "\x7b\\rtf", 0⟩,
    ⟨"application/postscript", ascii "%!", 0⟩,
    ⟨"application/x-xz", exactly [0xFD] ++ ascii "7zXZ" ++ exactly [0], 0⟩,
    ⟨"application/x-sqlite3", ascii "SQLi", 0⟩,
    ⟨"application/x-executable", exactly [0x7F] ++ ascii "ELF", 53⟩,
    ⟨"application/wasm", exactly [0] ++ ascii "asm" ++ exactly [1, 0, 0, 0], 0⟩]

def startsWith : List (Option UInt8) → List UInt8 → Bool
  | [], _ => true
  | _ :: _, [] => false
  | p :: ps, b :: bs => p.all (· == b) && startsWith ps bs

def Magic.shows (m : Magic) (data : List UInt8) : Bool :=
  startsWith m.pattern data && m.size ≤ data.length

/-- The charset of a text without a known beginning. Texts in UTF-16 and UTF-32 need a mark. -/
def charset? (data : List UInt8) : Option String :=
  if data.all (·.toNat < 128) then some "ascii"
  else if (Utf8.decode? data).isSome then some "utf-8"
  else if (Utf32.decodeMarked? data).isSome then some "utf-32"
  else if (Utf16.decodeMarked? data).isSome then some "utf-16"
  else none

/-- The text of a buffer in one of the charsets above. -/
def text (charset : String) (data : List UInt8) : List Char :=
  (match charset with
    | "utf-32" => Utf32.decodeMarked? data
    | "utf-16" => Utf16.decodeMarked? data
    | _ => Utf8.decode? data).getD []

def guess (data : List UInt8) : Content :=
  match magics.find? (·.shows data) with
  | some magic => ⟨magic.mime, binary⟩
  | none =>
    match charset? data with
    | some charset => ⟨"text/plain", charset⟩
    | none => ⟨"application/octet-stream", binary⟩

end Sniff
end Covenant
