import Covenant.Charset.Utf
import Covenant.Net.Label

/-! E-mail addresses. -/

namespace Covenant.Net.Email

def textLimit : Nat := 2048

def addressLimit : Nat := 254

def domainLimit : Nat := 253

/-- The ASCII characters of a local part. -/
def isAtomChar (c : Char) : Bool :=
  isAsciiLetter c || isAsciiDigit c || "_!#$%&'*+-/=?^`\x7b|\x7d~".toList.contains c

/-- Visible characters, of which marks must not come first. -/
def isSafe (cs : List Char) : Bool :=
  cs.all (fun c => c.toNat < 128 || isPrintable c) && !cs.head?.any isMark

/-- Parts without dots at their ends or in a row. -/
def isDotted (part : List Char → Bool) (cs : List Char) : Bool :=
  (splitWhere (· == '.') cs).all fun p => !p.isEmpty && part p

def isLocal (cs : List Char) : Bool :=
  isDotted (·.all fun c => isAtomChar c || 128 ≤ c.toNat) cs && isSafe cs

/-- Mailboxes that are the same in any letter case. -/
def commonMailboxes : List String :=
  ["info", "marketing", "sales", "support", "abuse", "noc", "security", "postmaster", "hostmaster",
    "usenet", "news", "webmaster", "www", "uucp", "ftp"]

/-- The normal form of a local part. -/
def normalLocal? (cs : List Char) : Option (List Char) :=
  let normal := Normalize.nfc cs
  if isLocal cs && isLocal normal then
    let small := normal.map lowerAscii
    some (if commonMailboxes.contains (String.ofList small) then small else normal)
  else none

def isHostChar (c : Char) : Bool :=
  isAsciiLetter c || isAsciiDigit c || c == '-' || c == '.' || 128 ≤ c.toNat

/-- Labels without dashes at their ends, and without two dashes behind two characters other than
`xn`. -/
def isHost (cs : List Char) : Bool :=
  cs.all isHostChar && isSafe cs
    && isDotted
      (fun p =>
        p.head? != some '-' && p.getLast? != some '-'
          && ((p.drop 2).take 2 != ['-', '-'] || (p.take 2).map lowerAscii == ['x', 'n'])) cs

/-- Domains that are not on the public network. -/
def specialDomains : List String := ["arpa", "invalid", "local", "localhost", "onion", "test"]

def isSpecial (labels : List (List Char)) : Bool :=
  labels.getLast?.any fun last => specialDomains.contains (String.ofList last)

/-- The ASCII form of a domain that mail can be sent to. -/
def asciiDomain? (cs : List Char) : Option (List Char) := do
  if !(cs.all isHostChar && isSafe cs) then none
  else
    let host ← mapHost? cs
    if !isHost host then none
    else
      let labels ← if isAscii host then some (labelsOf host) else (labelsOf host).mapM encodeLabel?
      let domain := joinLabels labels
      if domain.length ≤ domainLimit && labels.all (·.length ≤ labelLimit) && 2 ≤ labels.length
          && domain.getLast?.any isAsciiLetter && !isSpecial labels
      then some domain else none

/-- Splits at the first at sign. -/
def splitAt? (cs : List Char) : Option (List Char × List Char) :=
  if cs.contains '@' then some (cs.takeWhile (· != '@'), (cs.dropWhile (· != '@')).drop 1) else none

/-- The normal form of an address. -/
def normalize? (cs : List Char) : Option (List Char) := do
  if textLimit < cs.length then none
  else
    let (mailbox, host) ← splitAt? cs
    let mailbox ← normalLocal? mailbox
    let ascii ← asciiDomain? host
    let domain := joinLabels (← (labelsOf ascii).mapM decodeLabel?)
    let fits (address : List Char) : Bool := (Utf8.encode address).length ≤ addressLimit
    let normal := mailbox ++ '@' :: domain
    if fits cs && fits normal && fits (mailbox ++ '@' :: ascii) then some normal else none

end Covenant.Net.Email
