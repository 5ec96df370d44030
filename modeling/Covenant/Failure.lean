namespace Covenant

/-- A step that no contract rule accounts for. -/
inductive Fault where
  /-- An integer or an infinite number does not fit the number it is turned into. -/
  | overflow
  /-- A text or a number has no value of the kind that is read, or an integer has too many digits.
  -/
  | unreadable
  /-- A text was needed. -/
  | notText
  /-- A value of another kind was needed. -/
  | wrongKind
  /-- A codec that does not work on text was named as a charset. -/
  | notCharset
  /-- A template has no type. -/
  | missingType
  /-- A line break stands outside quotes in a comma-separated list. -/
  | openLine
  /-- A date format names a field twice. -/
  | repeatedField
  deriving DecidableEq, Repr

/-- Why no value is returned: the contract is malformed, the data was rejected, or a step failed. -/
inductive Failure where
  | malformed (message : String)
  | rejected (message : String)
  | crashed (fault : Fault)
  deriving DecidableEq, Repr

/-- A rule on the contract itself. -/
def require (holds : Bool) (message : String) : Except Failure Unit :=
  if holds then .ok () else .error (.malformed message)

end Covenant
