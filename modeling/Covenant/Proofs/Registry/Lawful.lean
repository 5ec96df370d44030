import Covenant.Proofs.Registry.Session
import Mathlib.Data.List.Nodup

/-! A registry keeps what was registered last, and one instance for each kind. -/

namespace Covenant.Registry

/-- What the calls of a session have made of a registry, told from all that was ever called on it
and from the replies of the session. -/
structure Lawful (history : List Call) (replies : List (Except Failure Reply))
    (registry : Registry) : Prop where
  /-- A call that fails changes nothing. -/
  unchanged : ∀ call e, call.Reported → (registry.answer call).1 = .error e →
    (registry.answer call).2 = registry
  /-- What was registered last without failing counts, else what is there at first. -/
  latest : ∀ token, registry.lookup token =
    match (Named.get? (initial.registered history).reverse token).or (builtin.get? token) with
    | some entry => .ok entry
    | none => .error (.malformed ("Unknown type '" ++ token ++ "'."))
  tokens : ∀ e ∈ registry.table, Entry.IsToken e.1
  /-- Only a template that was given as such may lack a type. -/
  typed : ∀ token (template : Template), (token, .template template) ∈ registry.table →
    template.IsTyped ∨ ∃ request, .register request ∈ history ∧
      (.text token, .template template) ∈ request.targets
  /-- A token is served by an instance of the kind that it stands for by now. -/
  served : ∀ token kind, registry.lookup token = .ok (.kind kind) ↔
    ∃ found : Instance, found.kind = kind ∧
      (registry.answer (.instanceFor token)).1 = .ok (.shared found)
  created : (registry.instances.map (·.kind)).Nodup
  shared : ∀ found other : Instance, .ok (.shared found) ∈ replies →
    .ok (.shared other) ∈ replies → found.kind = other.kind → found = other
  /-- Registrations of different tokens that do not fail commute. -/
  commute : ∀ first second later, (registry.answer (.register first)).1.isOk →
    (registry.answer (.register second)).1.isOk →
    List.Disjoint (first.targets.map (·.1)) (second.targets.map (·.1)) →
    (registry.answerAll (.register first :: .register second :: later)).1 =
      (registry.answerAll (.register second :: .register first :: later)).1

/-- Aliases for percentages. -/
def percentAliases : List (Value × Target) :=
  [(.text "percent", .contract (.map
    [(.text "type", .text "int"), (.text "min", .int 0), (.text "max", .int 100)]))]

/-- A session in which a token comes to stand for another kind, and registrations fail. -/
def shiftingCalls : List Call :=
  [.instanceFor "int", .register (.one (.text "int") (.kind .string)), .instanceFor "int",
    .register (.many [(.text "tax", .contract (.text "percent")), (.text "a|b", .kind .int)] none),
    .lookup "tax"]

/-- An alias whose contract holds an integer with too many digits to be written. -/
def unwritable : Request :=
  .one (.text "big") (.contract (.map
    [(.text "type", .text "int"), (.text "min", .int (Nat.pow 10 4300))]))

end Covenant.Registry
