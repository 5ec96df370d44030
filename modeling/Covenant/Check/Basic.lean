import Covenant.Contract.ListParam
import Covenant.Contract.Params
import Covenant.Mask.Matcher
import Covenant.Number

namespace Covenant

/-- How a contract node is read: whether data may be coerced, and whether the contract was written
in the compact notation, where every value is a text. -/
structure Mode where
  strict : Bool
  inline : Bool
  deriving DecidableEq

/-- A filtered value and what was found out about it. -/
structure Result where
  value : Value
  output : Value

/-- Why a check has no result: the data was refused, which a default may mend, or the check failed.
-/
inductive Stop where
  | refused (message : String)
  | failed (failure : Failure)
  deriving DecidableEq

/-- The outcome of checking data against a contract, defaults apart. -/
abbrev Outcome := Except Stop Result

instance : MonadLift (Except Failure) (Except Stop) where
  monadLift
    | .ok a => .ok a
    | .error f => .error (.failed f)

def refuse (message : String) : Except Stop α := .error (.refused message)

/-- The outcome of data that is its own output. -/
def accept (value : Value) : Outcome := .ok ⟨value, value⟩

/-- The bounds on a length. -/
structure Limits where
  least : Option Nat
  most : Option Nat

namespace Limits

def ofParams (params : Params) : Except Failure Limits := do
  let least ← Size.ofValue (params.get "minLen")
  let most ← Size.ofValue (params.get "maxLen")
  return ⟨least, most⟩

def tooShort (l : Limits) (n : Nat) : Bool := l.least.any (n < ·)

def tooLong (l : Limits) (n : Nat) : Bool := l.most.any (· < n)

/-- Drops what exceeds the upper bound. -/
def cut (l : Limits) (xs : List α) : List α :=
  match l.most with
  | some n => xs.take n
  | none => xs

end Limits

/-- A list parameter of the contract. -/
def Params.list (params : Params) (name : String) : Except Failure (Option (List Value)) :=
  ListParam.ofValue (params.get name) name

/-- Whether a text has the mask that is given, if one is given. -/
def Params.maskAllows (params : Params) (s : List Char) : Except Failure Bool :=
  match params.get "mask" with
  | .text mask => if mask == "" then .ok true else Mask.search mask (String.ofList s)
  | mask => if mask.isTrue then .error (.crashed .wrongKind) else .ok true

end Covenant
