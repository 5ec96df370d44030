import Covenant.Contract.Node
import Covenant.Kind

/-! What type tokens stand for. -/

namespace Covenant

/-- A contract that a type token stands for, and whether it was written in the compact notation. -/
structure Template where
  contract : Entries
  inline : Bool

namespace Template

/-- What a contract that names the template adds to it. -/
def additions (params : Params) : Params :=
  params.filter fun p => p.1 != "type" && p.1 != "strict" && !p.2.isNull

/-- The contract that a template with these parameters stands for. -/
def expand (template : Template) (params : Params) : Except Failure Value :=
  if (template.contract.get? (.text "type")).isSome then
    .ok (.map (template.contract.update (additions params).toEntries))
  else .error (.crashed .missingType)

/-- The template of a contract. One without a type is a record. -/
def ofEntries (entries : Entries) (inline : Bool) : Except Failure Template := do
  let params ← Params.ofEntries entries
  if (params.get "type").isTrue then return ⟨params.toEntries, inline⟩
  else return ⟨(Node.record (.map entries)).toEntries, inline⟩

end Template

inductive Entry where
  | kind (kind : Kind)
  | template (template : Template)

/-- What may be registered under a type token. -/
inductive Target where
  | kind (kind : Kind)
  /-- Something other than a kind. -/
  | foreign
  | template (template : Template)
  | contract (contract : Value)

namespace Entry

def isReserved (c : Char) : Bool := "|?~=;".toList.contains c

/-- A token that can stand in a type expression. -/
def readToken (token : Value) : Except Failure String :=
  match token with
  | .text s =>
    if s.toList.all isBlank then bad
    else if s.toList.any isReserved || trim s.toList != s.toList then
      .error (.malformed ("Bad alias token '" ++ s ++ "'."))
    else .ok s
  | _ => bad
where
  bad := do .error (.malformed ("Bad alias token " ++ String.ofList (← token.shown) ++ "."))

def ofTarget (token : String) (target : Target) : Except Failure Entry :=
  match target with
  | .kind k => .ok (.kind k)
  | .foreign =>
    .error (.malformed ("Alias '" ++ token ++ "' target is not a Validator subclass."))
  | .template t => .ok (.template t)
  | .contract (.text s) => do
    return .template (← Template.ofEntries (← Source.read s).toEntries true)
  | .contract (.list items) | .contract (.tuple items) =>
    .ok (.template ⟨(Node.record (.list items)).toEntries, false⟩)
  | .contract (.map entries) => do return .template (← Template.ofEntries entries false)
  | .contract _ => .error (.malformed ("Bad target for alias '" ++ token ++ "'."))

end Entry

/-- The instance that checks data of a kind. No two instances have the same number. -/
structure Instance where
  kind : Kind
  number : Nat
  deriving DecidableEq

/-- Type tokens, and the instances made so far. -/
structure Registry where
  table : Named Entry
  /-- Whether what is made for a kind is able to check data. -/
  sound : Bool
  instances : List Instance

namespace Registry

/-- The templates that are there at first. -/
def templates : Named Params :=
  [("array", [("type", .text "list")]),
    ("true", [("type", .text "bool"), ("const", .bool true)]),
    ("false", [("type", .text "bool"), ("const", .bool false)]),
    ("port", [("type", .text "int"), ("min", .int 1), ("max", .int 65535), ("clamp", .bool false)]),
    ("ipv4", [("type", .text "ip"), ("version", .int 4)]),
    ("ipv6", [("type", .text "ip"), ("version", .int 6)]),
    ("md5", [("type", .text "hash"), ("algo", .text "md5")]),
    ("sha1", [("type", .text "hash"), ("algo", .text "sha1")]),
    ("sha256", [("type", .text "hash"), ("algo", .text "sha256")]),
    ("sha512", [("type", .text "hash"), ("algo", .text "sha512")])]

def builtin : Named Entry :=
  Kind.byToken.map (fun e => (e.1, .kind e.2))
    ++ templates.map fun e => (e.1, .template ⟨e.2.toEntries, false⟩)

/-- The entries for targets, or a failure on the first that is not allowed. -/
def entriesOf (aliases : List (Value × Target)) : Except Failure (Named Entry) :=
  aliases.mapM fun (token, target) => do
    let token ← Entry.readToken token
    return (token, ← Entry.ofTarget token target)

def publish (registry : Registry) (entries : Named Entry) : Registry :=
  { registry with table := registry.table.update entries }

/-- Reports new entries, a template with its contract as text. -/
def report : Named Entry → Except Failure Unit
  | [] => .ok ()
  | (_, .kind _) :: rest => report rest
  | (_, .template t) :: rest => do
    discard (Value.map t.contract).shown
    report rest

/-- What is given to be registered: a token with its target, or several at once. -/
inductive Request where
  | one (token : Value) (target : Target)
  | many (aliases : List (Value × Target)) (target : Option Target)

def Request.entries : Request → Except Failure (Named Entry)
  | .one token target => entriesOf [(token, target)]
  | .many aliases none => entriesOf aliases
  | .many _ (some _) =>
    .error (.malformed
      "register() takes either a mapping of aliases or a token and a target.")

/-- How a registration ends, and the registry after it. All targets are read before any is
registered; entries are reported once they are registered, and stay if that fails. -/
def handle (registry : Registry) (request : Request) : Except Failure Unit × Registry :=
  match request.entries with
  | .error e => (.error e, registry)
  | .ok entries => (report entries, registry.publish entries)

/-- The registry after a registration that does not fail. -/
def register (registry : Registry) (request : Request) : Except Failure Registry :=
  let (outcome, registry) := registry.handle request
  outcome.map fun _ => registry

/-- A registry with further aliases. -/
def ofAliases (aliases : List (Value × Target)) (sound : Bool) : Except Failure Registry :=
  register ⟨builtin, sound, []⟩ (.many aliases none)

def lookup (registry : Registry) (token : String) : Except Failure Entry :=
  match registry.table.get? token with
  | some entry => .ok entry
  | none => .error (.malformed ("Unknown type '" ++ token ++ "'."))

/-- All tokens, in order of their characters. -/
def tokens (registry : Registry) : List String :=
  (registry.table.map (·.1)).mergeSort (· ≤ ·)

/-- The kind that a token stands for by itself. -/
def kind (registry : Registry) (token : String) : Except Failure Kind := do
  match ← registry.lookup token with
  | .kind k =>
    if registry.sound then return k
    else .error (.malformed ("Object built for type '" ++ token ++ "' is not a Validator."))
  | .template _ => .error (.malformed ("Type '" ++ token ++ "' is an alias, not a validator."))

/-- The instance for a token, and the registry that holds it. -/
def instanceFor (registry : Registry) (token : String) : Except Failure (Instance × Registry) := do
  let k ← registry.kind token
  match registry.instances.find? (·.kind = k) with
  | some found => return (found, registry)
  | none =>
    let made : Instance := ⟨k, registry.instances.length⟩
    return (made, { registry with instances := made :: registry.instances })

inductive Call where
  | register (request : Request)
  | lookup (token : String)
  | instanceFor (token : String)

inductive Reply where
  | registered
  | found (entry : Entry)
  | shared (found : Instance)

/-- How a call ends, and the registry after it. -/
def answer (registry : Registry) : Call → Except Failure Reply × Registry
  | .register request =>
    let (outcome, registry) := registry.handle request
    (outcome.map fun _ => .registered, registry)
  | .lookup token => ((registry.lookup token).map .found, registry)
  | .instanceFor token =>
    match registry.instanceFor token with
    | .ok (found, registry) => (.ok (.shared found), registry)
    | .error e => (.error e, registry)

/-- How the calls of a session end, one after the other, and the registry after them. -/
def answerAll (registry : Registry) : List Call → List (Except Failure Reply) × Registry
  | [] => ([], registry)
  | call :: rest =>
    let (reply, registry) := registry.answer call
    let (replies, registry) := registry.answerAll rest
    (reply :: replies, registry)

end Registry
end Covenant
