import Covenant.Check.Basic

/-! Equality of values can be decided, and so what comes of a contract. -/

namespace Covenant
namespace Value

mutual
/-- Whether two values are one and the same. -/
def same : Value → Value → Bool
  | null, null => true
  | bool a, bool b => a == b
  | int a, int b => a == b
  | float a, float b => a == b
  | text a, text b => a == b
  | list a, list b => sameLists a b
  | tuple a, tuple b => sameLists a b
  | deque a, deque b => sameLists a b
  | map a, map b => sameEntries a b
  | bytes a, bytes b => a == b
  | buffer a, buffer b => a == b
  | _, _ => false

def sameLists : List Value → List Value → Bool
  | [], [] => true
  | a :: as, b :: bs => same a b && sameLists as bs
  | _, _ => false

def sameEntries : List (Value × Value) → List (Value × Value) → Bool
  | [], [] => true
  | (k, v) :: as, (l, w) :: bs => same k l && same v w && sameEntries as bs
  | _, _ => false
end

mutual
theorem same_iff (a b : Value) : same a b = true ↔ a = b := by
  cases a <;> cases b <;> simp [same, sameLists_iff, sameEntries_iff]

theorem sameLists_iff (as bs : List Value) : sameLists as bs = true ↔ as = bs := by
  cases as with
  | nil => cases bs <;> simp [sameLists]
  | cons a as => cases bs <;> simp [sameLists, same_iff a, sameLists_iff as]

theorem sameEntries_iff (as bs : List (Value × Value)) : sameEntries as bs = true ↔ as = bs := by
  match as, bs with
  | [], [] => simp [sameEntries]
  | [], _ :: _ => simp [sameEntries]
  | _ :: _, [] => simp [sameEntries]
  | (k, v) :: as, (l, w) :: bs =>
    simp [sameEntries, same_iff k, same_iff v, sameEntries_iff as]
end

instance : DecidableEq Value := fun a b => decidable_of_iff _ (same_iff a b)

end Value

deriving instance DecidableEq for Result

instance exceptDecidableEq [DecidableEq ε] [DecidableEq α] : DecidableEq (Except ε α)
  | .ok a, .ok b => decidable_of_iff (a = b) (by simp)
  | .error e, .error f => decidable_of_iff (e = f) (by simp)
  | .ok _, .error _ => .isFalse (by simp)
  | .error _, .ok _ => .isFalse (by simp)

end Covenant
