import Covenant.Charset.Codec
import Covenant.Charset.Lookup
import Covenant.Check.Basic
import Covenant.Contract.TypeExpr

/-! Booleans, numbers, texts and enumerations. -/

namespace Covenant.Check

def null (mode : Mode) (params : Params) (data : Value) : Outcome :=
  match data, params.get "default" with
  | .null, _ => accept .null
  | _, .null => refuse "Data is not null."
  | _, .text "null" =>
    if mode.inline then accept .null
    else .error (.failed (.malformed "Bad contract 'default' value."))
  | _, _ => .error (.failed (.malformed "Bad contract 'default' value."))

/-- The loose truth of a value: the words for false are false. -/
def looseTruth : Value → Bool
  | .text s => !Flag.falseWords.contains (onChars (fun cs => lower (trim cs)) s)
  | v => v.isTrue

def boolConst (mode : Mode) (expected : Bool) (data : Value) : Outcome :=
  let holds :=
    match data with
    | .null => false
    | .bool b => b == expected
    | v => !mode.strict && looseTruth v == expected
  if holds then accept (.bool expected)
  else refuse ("Data is not " ++ (if expected then "true" else "false") ++ ".")

def bool (mode : Mode) (params : Params) (data : Value) : Outcome :=
  match params.get "const" with
  | .null =>
    match data with
    | .bool b => accept (.bool b)
    | .null => refuse "Data is not boolean."
    | v => if mode.strict then refuse "Data is not boolean." else accept (.bool (looseTruth v))
  | const => do boolConst mode (← Flag.ofValue const "const") data

/-- Whether a number outside its bounds is moved to the nearest one. -/
def clamps (params : Params) : Except Failure Bool :=
  Flag.ofValue ((params.get? "clamp").getD (.bool true)) "clamp"

def Loose.readInt (data : Value) : Except Failure (Option Int) :=
  match data with
  | .bool b => .ok (some (if b then 1 else 0))
  | v => Loose.toInt? v

def exactInt : Value → Option Int
  | .int i => some i
  | _ => none

def int (mode : Mode) (params : Params) (data : Value) : Outcome := do
  let convert := mode.inline || !mode.strict
  let least ← Bound.ofInt (params.get "min") "min" convert
  let most ← Bound.ofInt (params.get "max") "max" convert
  let clamp ← clamps params
  let read : Except Failure (Option Int) :=
    if mode.strict then .ok (exactInt data) else Loose.readInt data
  match ← read with
  | none => refuse "Data doesn't respect contract (can't cast to int)."
  | some i =>
    if least.any (i < ·) || most.any (· < i) then
      if mode.strict || !clamp then refuse "Data doesn't respect contract (out of range integer)."
      else
        let raised := least.elim i (max i)
        accept (.int (most.elim raised (min raised)))
    else accept (.int i)

def Loose.readFloat (data : Value) : Except Failure (Option Double) :=
  match data with
  | .bool b => .ok (some (Double.ofInt b.toNat))
  | v => Loose.toFloat? v

def exactFloat : Value → Option Double
  | .float x => some x
  | _ => none

def float (mode : Mode) (params : Params) (data : Value) : Outcome := do
  let convert := mode.inline || !mode.strict
  let least ← Bound.ofFloat (params.get "min") "min" convert
  let most ← Bound.ofFloat (params.get "max") "max" convert
  let clamp ← clamps params
  let read : Except Failure (Option Double) :=
    if mode.strict then .ok (exactFloat data) else Loose.readFloat data
  match ← read with
  | none => refuse "Data doesn't respect contract (can't cast to float)."
  | some x =>
    if least.any x.lt || most.any (·.lt x) then
      if mode.strict || !clamp then refuse "Data doesn't respect contract (out of range float)."
      else
        let raised := least.elim x x.max
        accept (.float (most.elim raised raised.min))
    else accept (.float x)

/-- The canonical names of a list of charsets; empty entries are passed over. -/
def charsetNames : List Value → Except Failure (List String)
  | [] => .ok []
  | .text s :: rest =>
    if s == "" then charsetNames rest
    else do return (← Charset.canonicalName s) :: (← charsetNames rest)
  | .bytes data :: rest | .buffer data :: rest =>
    if data.isEmpty then charsetNames rest else .error (.crashed .wrongKind)
  | v :: rest => if v.isTrue then .error (.crashed .notText) else charsetNames rest

/-- The list of charsets inside a message. -/
def charsetList (charsets : List Value) : Except Failure String :=
  match TypeExpr.texts? charsets with
  | some names => .ok (join ", " names)
  | none => .error (.crashed .wrongKind)

def fitsSome (cs : List Char) : List String → Except Failure Bool
  | [] => .ok false
  | name :: rest => do if ← (Codec.named name).fits cs then return true else fitsSome cs rest

/-- Holds a text to the characters of one of the charsets. -/
def withinCharsets (mode : Mode) (charsets : List Value) (cs : List Char) :
    Except Stop (List Char) := do
  match ← charsetNames charsets with
  | [] => return cs
  | name :: names =>
    if ← fitsSome cs (name :: names) then return cs
    else if mode.strict then
      refuse ("Data doesn't respect contract (charset mismatch: expected one of ["
        ++ (← charsetList charsets) ++ "]).")
    else return (Codec.named name).replaceMissing cs

/-- The text that data is read as. -/
def readText (mode : Mode) (data : Value) : Except Stop (List Char) :=
  match data with
  | .text s => .ok s.toList
  | v =>
    if mode.strict then refuse "Data doesn't respect contract (not a string)."
    else
      match v with
      | .bool b => .ok (if b then "true" else "false").toList
      | .int i => liftM (Decimal.ofInt? i)
      | .float x => .ok (Decimal.ofDouble x)
      | _ => refuse "Data doesn't respect contract (can't cast to string)."

def string (mode : Mode) (params : Params) (data : Value) : Outcome := do
  let charsets ← params.list "charset"
  let limits ← Limits.ofParams params
  let cs ← readText mode data
  if mode.strict && limits.tooLong cs.length then
    refuse "Data doesn't respect contract (string too long)."
  else
    let cs := limits.cut cs
    if limits.tooShort cs.length then refuse "Data doesn't respect contract (string too short)."
    else
      let cs ← withinCharsets mode (charsets.getD []) cs
      if ← params.maskAllows cs then accept (.text (String.ofList cs))
      else refuse "Data doesn't respect contract (string doesn't match the given mask)."

def enum (_ : Mode) (params : Params) (data : Value) : Outcome := do
  let values := (← params.list "values").getD []
  require (!values.isEmpty) "Enum without values."
  if values.any fun v => v.sameType data && v.equals data then accept data
  else refuse ("Data doesn't respect contract (bad enum value '" ++ (← data.toText) ++ "').")

end Covenant.Check
