import Covenant.CodeSet
import Covenant.Decimal.Numeral

namespace Covenant.Net

/-- An octet of an IPv4 address: at most three ASCII digits, no leading zero, at most 255. -/
def octet? (cs : List Char) : Option Nat :=
  if cs.isEmpty || 3 < cs.length || !cs.all isAsciiDigit then none
  else if cs.head? = some '0' ∧ 1 < cs.length then none
  else
    match Numeral.natural? cs with
    | some n => if n ≤ 255 then some n else none
    | none => none

/-- The number of an IPv4 address in dotted notation. -/
def ipv4? (cs : List Char) : Option Nat :=
  match (splitWhere (· == '.') cs).map octet? with
  | [some a, some b, some c, some d] => some (((a * 256 + b) * 256 + c) * 256 + d)
  | _ => none

def isHextet (cs : List Char) : Bool := 1 ≤ cs.length && cs.length ≤ 4 && cs.all isHexDigit

/-- The parts between colons, an IPv4 address at the end counting as two. -/
def ipv6Parts? (cs : List Char) : Option (List (List Char)) :=
  let parts := splitWhere (· == ':') cs
  if parts.length < 3 then none
  else
    match parts.getLast? with
    | some last =>
      if last.contains '.' then
        if (ipv4? last).isSome then some (parts.dropLast ++ [['0'], ['0']]) else none
      else some parts
    | none => none

/-- The parts without the one that is empty because the address starts or ends with two colons. -/
def sidesOf (left right : List (List Char)) : List (List Char) × List (List Char) :=
  (if left = [[]] then [] else left, if right = [[]] then [] else right)

/-- Eight groups of hexadecimal digits, of which two colons in a row leave out at least one. -/
def isIpv6 (cs : List Char) : Bool :=
  match ipv6Parts? cs with
  | none => false
  | some parts =>
    let inner := (parts.drop 1).dropLast
    match inner.findIdx? List.isEmpty with
    | none => parts.length == 8 && parts.all isHextet
    | some i =>
      let (left, right) := sidesOf (parts.take (i + 1)) (parts.drop (i + 2))
      parts.length ≤ 9 && left.length + right.length < 8 && (left ++ right).all isHextet

/-- An IPv6 address with a scope behind a percent sign, if it has one. -/
def isScopedIpv6 (cs : List Char) : Bool :=
  match splitWhere (· == '%') cs with
  | [address] => isIpv6 address
  | [address, scope] => !scope.isEmpty && isIpv6 address
  | _ => false

/-- The version of an address: 4 or 6. -/
def ipVersion? (cs : List Char) : Option Nat :=
  if cs.contains '/' then none
  else if (ipv4? cs).isSome then some 4
  else if isScopedIpv6 cs then some 6
  else none

/-- Pairs of hexadecimal digits with one kind of separator between, or three groups of four. -/
def isMac (cs : List Char) : Bool :=
  let groups (sep : Char) (count size : Nat) : Bool :=
    let parts := splitWhere (· == sep) cs
    parts.length == count && parts.all fun p => p.length == size && p.all isHexDigit
  groups ':' 6 2 || groups '-' 6 2 || groups '.' 3 4

end Covenant.Net
