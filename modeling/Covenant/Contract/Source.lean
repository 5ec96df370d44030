import Covenant.Contract.Params

/-! The compact notation of contracts: a type, then parameters `name: value`, each after a
semicolon. -/

namespace Covenant.Source

/-- A piece of a value: only what stands outside quotes is trimmed. -/
inductive Piece where
  | plain (cs : List Char)
  | quoted (cs : List Char)

namespace Piece

def chars : Piece → List Char
  | plain cs | quoted cs => cs

def isBlankPlain : Piece → Bool
  | plain cs => cs.all isBlank
  | quoted _ => false

def trimLeft : Piece → Piece
  | plain cs => plain (Covenant.trimLeft cs)
  | quoted cs => quoted cs

def trimRight : Piece → Piece
  | plain cs => plain (Covenant.trimRight cs)
  | quoted cs => quoted cs

end Piece

def onHead (f : Piece → Piece) : List Piece → List Piece
  | [] => []
  | p :: ps => f p :: ps

/-- The text of the pieces, blanks outside quotes trimmed at both ends. -/
def assemble (pieces : List Piece) : List Char :=
  let fromLeft := onHead .trimLeft (pieces.dropWhile Piece.isBlankPlain)
  let fromRight := onHead .trimRight (fromLeft.reverse.dropWhile Piece.isBlankPlain)
  fromRight.reverse.flatMap Piece.chars

/-- What is being read. Characters and pieces are kept in reverse. -/
inductive Stage where
  | name (chars : List Char)
  | plain (name : List Char) (pieces : List Piece) (chars : List Char)
  | quoted (name : List Char) (pieces : List Piece) (chars : List Char)

def missingColon (segment : List Char) : Failure :=
  .malformed ("Bad contract parameter '" ++ String.ofList segment ++ "' (missing ':').")

def store (params : Params) (name : List Char) (pieces : List Piece) (chars : List Char) : Params :=
  params.put (Params.canonicalName (String.ofList name))
    (.text (String.ofList (assemble (.plain chars.reverse :: pieces).reverse)))

/-- A segment without a colon may only hold blanks. -/
def skip (chars : List Char) : Except Failure Unit :=
  let segment := trim chars.reverse
  if segment.isEmpty then .ok () else .error (missingColon segment)

def readParams (params : Params) : Stage → List Char → Except Failure Params
  | .name chars, [] => do skip chars; return params
  | .name chars, ';' :: rest => do skip chars; readParams params (.name []) rest
  | .name chars, ':' :: rest =>
    let name := trim chars.reverse
    if name.isEmpty then .error (.malformed "Bad contract parameter (empty name).")
    else readParams params (.plain name [] []) rest
  | .name chars, c :: rest => readParams params (.name (c :: chars)) rest
  | .plain name pieces chars, [] => .ok (store params name pieces chars)
  | .plain name pieces chars, ';' :: rest =>
    readParams (store params name pieces chars) (.name []) rest
  | .plain name pieces chars, '\\' :: ';' :: rest =>
    readParams params (.plain name pieces (';' :: chars)) rest
  | .plain name pieces chars, '\\' :: '\\' :: rest =>
    readParams params (.plain name pieces ('\\' :: chars)) rest
  | .plain name pieces chars, '"' :: rest =>
    readParams params (.quoted name (.plain chars.reverse :: pieces) []) rest
  | .plain name pieces chars, c :: rest => readParams params (.plain name pieces (c :: chars)) rest
  | .quoted _ _ _, [] => .error (.malformed "Bad contract string (unterminated quote).")
  | .quoted name pieces chars, '\\' :: '"' :: rest =>
    readParams params (.quoted name pieces ('"' :: chars)) rest
  | .quoted name pieces chars, '\\' :: '\\' :: rest =>
    readParams params (.quoted name pieces ('\\' :: chars)) rest
  | .quoted name pieces chars, '"' :: rest =>
    readParams params (.plain name (.quoted chars.reverse :: pieces) []) rest
  | .quoted name pieces chars, c :: rest =>
    readParams params (.quoted name pieces (c :: chars)) rest

/-- Reads a contract in the compact notation. Values stay texts. -/
def read (source : String) : Except Failure Params :=
  let cs := source.toList
  let params : Params := [("type", .text (String.ofList (trim (cs.takeWhile (· != ';')))))]
  match cs.dropWhile (· != ';') with
  | [] => .ok params
  | _ :: rest => readParams params (.name []) rest

end Covenant.Source
