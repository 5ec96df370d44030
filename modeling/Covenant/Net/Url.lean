import Covenant.Net.Host
import Covenant.Unicode.Separator

/-! URLs: which ones are valid, and their components. -/

namespace Covenant.Net

namespace Url

def isControl (c : Char) : Bool := c.toNat ≤ 32

def isSlash (c : Char) : Bool := c == '/' || c == '\\'

def isSchemeChar (c : Char) : Bool :=
  isAsciiLetter c || isAsciiDigit c || c == '+' || c == '-' || c == '.'

/-- The scheme in lower case and what stands behind its colon. -/
def splitScheme? (cs : List Char) : Option (String × List Char) :=
  let name := cs.takeWhile isSchemeChar
  match cs.drop name.length with
  | ':' :: rest =>
    if name.head?.any isAsciiLetter then some (String.ofList (name.map lowerAscii), rest) else none
  | _ => none

/-- Schemes with known rules for their hosts. -/
def specialSchemes : List String := ["http", "https", "ws", "wss", "ftp"]

def endsAuthority (special : Bool) (c : Char) : Bool :=
  c == '/' || c == '?' || c == '#' || (special && c == '\\')

/-- What stands behind the last at sign. -/
def afterUser (cs : List Char) : List Char := (cs.reverse.takeWhile (· != '@')).reverse

/-- The host in front of a colon that is not in brackets, and what stands from there on. -/
def splitHost : Bool → List Char → List Char × List Char
  | _, [] => ([], [])
  | inside, c :: cs =>
    if c = ':' ∧ !inside then ([], c :: cs)
    else
      let inside := if c = '[' then true else if c = ']' then false else inside
      let (host, rest) := splitHost inside cs
      (c :: host, rest)

def portLimit : Nat := 65535

def decimalNumber (cs : List Char) : Nat := cs.foldl (fun n c => 10 * n + (c.toNat - 48)) 0

/-- A port of digits, which may be left out behind its colon. -/
def isPort (cs : List Char) : Bool := cs.all isAsciiDigit && decimalNumber cs ≤ portLimit

/-- Whether what stands behind the slashes names a host. -/
def hasHost (special : Bool) (cs : List Char) : Bool :=
  let (host, rest) := splitHost false (afterUser (cs.takeWhile (!endsAuthority special ·)))
  let port := (rest.drop 1).takeWhile (· != '\\')
  (if special then Host.isSpecial host else Host.isOpaque host) && isPort port

/-- Whether a URL has a scheme and a valid host. -/
def isValid (cs : List Char) : Bool :=
  let cs := ((cs.dropWhile isControl).reverse.dropWhile isControl).reverse
  match splitScheme? cs with
  | none => false
  | some (scheme, rest) =>
    if scheme = "file" then
      match rest with
      | a :: b :: rest =>
        isSlash a && isSlash b
          && Host.isFileHost (rest.takeWhile fun c => !(isSlash c || c == '?' || c == '#'))
      | _ => false
    else if specialSchemes.contains scheme then hasHost true (rest.dropWhile isSlash)
    else
      match rest with
      | '/' :: '/' :: rest => hasHost false rest
      | _ => false

end Url

/-- The components of a URL. -/
structure UrlParts where
  scheme : Option String
  host : Option String
  domain : Option String
  port : Option Nat
  user : Option String
  password : Option String
  path : Option String
  query : Option String
  fragment : Option String

namespace UrlParts

/-- What stands before and behind the first such character; nothing stands behind without one. -/
def splitFirst (sep : Char) (cs : List Char) : List Char × Option (List Char) :=
  match cs.dropWhile (· != sep) with
  | [] => (cs, none)
  | _ :: rest => (cs.takeWhile (· != sep), some rest)

def splitLast (sep : Char) (cs : List Char) : Option (List Char) × List Char :=
  match splitFirst sep cs.reverse with
  | (_, none) => (none, cs)
  | (tail, some front) => (some front.reverse, tail.reverse)

/-- The text, if there is any. -/
def some? (cs : List Char) : Option String := if cs.isEmpty then none else some (String.ofList cs)

/-- An address of a later version: `v`, a hexadecimal number, a dot and more. -/
def isLaterAddress (cs : List Char) : Bool :=
  match cs with
  | 'v' :: cs =>
    let (version, rest) := splitFirst '.' cs
    !version.isEmpty && version.all isHexDigit && rest.any (!·.isEmpty)
  | _ => false

/-- Brackets come in pairs and hold an address; no character only looks like a separator. -/
def isAuthority (cs : List Char) : Bool :=
  let brackets :=
    match cs.contains '[', cs.contains ']' with
    | false, false => true
    | true, true =>
      let inside := ((splitFirst '[' cs).2.getD []).takeWhile (· != ']')
      isScopedIpv6 inside || isLaterAddress inside
    | _, _ => false
  brackets && !cs.any fun c => 128 ≤ c.toNat && Unicode.hiddenSeparatorSet.contains c.toNat

def hostAndPort (cs : List Char) : List Char × List Char :=
  match splitFirst '[' cs with
  | (_, some inside) =>
    let (host, rest) := splitFirst ']' inside
    (host, (splitFirst ':' (rest.getD [])).2.getD [])
  | (_, none) =>
    let (host, port) := splitFirst ':' cs
    (host, port.getD [])

/-- The host in lower case; a scope behind a percent sign stays as it is. -/
def lowerHost (cs : List Char) : List Char :=
  lower (cs.takeWhile (· != '%')) ++ cs.dropWhile (· != '%')

def isDigits (cs : List Char) : Bool :=
  !cs.isEmpty && cs.all fun c =>
    if c.toNat < 128 then isAsciiDigit c else Unicode.digitSet.contains c.toNat

/-- The last two labels of a host that is not just numbers. -/
def domainOf (host : List Char) : List Char :=
  if host.contains '.' && !isDigits (host.filter (· != '.')) then
    let labels := labelsOf host
    joinLabels (labels.drop (labels.length - 2))
  else host

/-- The components as they stand in the text; none when the authority or the port is malformed. -/
def read? (cs : List Char) : Option UrlParts := do
  let cs := cs.dropWhile Url.isControl
  let (scheme, rest) ←
    match Url.splitScheme? cs with
    | some (scheme, rest) => some (some scheme, rest)
    | none => some (none, cs)
  let (authority, rest) :=
    match rest with
    | '/' :: '/' :: rest =>
      (rest.takeWhile (!Url.endsAuthority false ·), rest.dropWhile (!Url.endsAuthority false ·))
    | rest => ([], rest)
  let (rest, fragment) := splitFirst '#' rest
  let (path, query) := splitFirst '?' rest
  if !isAuthority authority then none
  else
    let (user, address) := splitLast '@' authority
    let (host, port) := hostAndPort address
    let host := lowerHost host
    if !port.all isAsciiDigit || Url.portLimit < Url.decimalNumber port then none
    else
      return {
        scheme := scheme
        host := some? host
        domain := some? (domainOf host)
        port := if port.isEmpty then none else some (Url.decimalNumber port)
        user := user.map fun u => String.ofList (splitFirst ':' u).1
        password := user.bind fun u => (splitFirst ':' u).2.map String.ofList
        path := some? path
        query := some? (query.getD [])
        fragment := some? (fragment.getD []) }

end UrlParts
end Covenant.Net
