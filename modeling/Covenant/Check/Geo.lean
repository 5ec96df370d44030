import Covenant.Check.Basic
import Covenant.CodeSet

/-! Geographic coordinates. -/

namespace Covenant.Check.Geo

/-- A latitude and a longitude. -/
structure Point where
  latitude : Double
  longitude : Double

/-- Digits with an optional fraction, which has at least one digit. -/
def splitFraction? (cs : List Char) : Option (List Char × List Char) :=
  match cs.dropWhile (· != '.') with
  | [] => some (cs, [])
  | _ :: fraction =>
    if !fraction.isEmpty && fraction.all isDecimal then some (cs.takeWhile (· != '.'), fraction)
    else none

def between (low high c : Char) : Bool := low ≤ c && c ≤ high

def isZeros (cs : List Char) : Bool := cs.all (· == '0')

def isLatitude (whole fraction : List Char) : Bool :=
  match whole with
  | [a] => isDecimal a
  | [a, b] => (between '1' '8' a && isDecimal b) || (a == '9' && b == '0' && isZeros fraction)
  | _ => false

def isLongitude (whole fraction : List Char) : Bool :=
  match whole with
  | [a] => isDecimal a
  | [a, b] => between '1' '9' a && isDecimal b
  | [a, b, c] =>
    a == '1' && ((between '0' '7' b && isDecimal c) || (b == '8' && c == '0' && isZeros fraction))
  | _ => false

def unsigned (cs : List Char) : List Char :=
  match cs with
  | '-' :: rest | '+' :: rest => rest
  | _ => cs

/-- A signed number in the given range. -/
def coordinate? (inRange : List Char → List Char → Bool) (cs : List Char) : Option Double :=
  (splitFraction? (unsigned cs)).bind fun (whole, fraction) =>
    if inRange whole fraction then (Numeral.read? cs).map Numeral.toDouble else none

/-- Two coordinates with a comma between. -/
def point? (s : String) : Option Point := do
  match splitWhere (· == ',') (trim s.toList) with
  | [latitude, longitude] =>
    return ⟨← coordinate? isLatitude latitude, ← coordinate? isLongitude (trimLeft longitude)⟩
  | _ => none

def pointOf? : Value → Option Point
  | .text s => point? s
  | _ => none

/-- A corner of the area that is allowed. -/
def corner (params : Params) (name : String) : Except Failure (Option Point) :=
  let value := params.get name
  if value.isAbsent then .ok none
  else
    match pointOf? value with
    | some p => .ok (some p)
    | none => .error (badParameter name)

def accepted (p : Point) : Outcome :=
  .ok ⟨.text (formatNumber p.latitude ++ ", " ++ formatNumber p.longitude),
    .tuple [.float p.latitude, .float p.longitude]⟩

def isBelow (p corner : Point) : Bool :=
  p.latitude.lt corner.latitude || p.longitude.lt corner.longitude

def raise (p corner : Point) : Point :=
  ⟨p.latitude.max corner.latitude, p.longitude.max corner.longitude⟩

def lower (p corner : Point) : Point :=
  ⟨p.latitude.min corner.latitude, p.longitude.min corner.longitude⟩

def upTo (mode : Mode) (northEast : Option Point) (p : Point) : Outcome :=
  match northEast with
  | some corner =>
    if isBelow corner p then
      if mode.strict then refuse "Data doesn't respect contract (geo coordinates too high)."
      else accepted (lower p corner)
    else accepted p
  | none => accepted p

/-- Coordinates inside an area; outside it, a point is moved to the nearest edge. -/
def check (mode : Mode) (params : Params) (data : Value) : Outcome := do
  let southWest ← corner params "min"
  let northEast ← corner params "max"
  match pointOf? data with
  | none => refuse "Data is not a valid geo coordinates string."
  | some p =>
    match southWest with
    | some corner =>
      if isBelow p corner then
        if mode.strict then refuse "Data doesn't respect contract (geo coordinates too low)."
        else upTo mode northEast (raise p corner)
      else upTo mode northEast p
    | none => upTo mode northEast p

end Covenant.Check.Geo
