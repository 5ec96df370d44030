import Covenant.Check.Basic
import Covenant.Check.Codes
import Covenant.Net.Email
import Covenant.Net.Url

/-! E-mail addresses, URLs, and the addresses of machines. -/

namespace Covenant.Check

def email (_ : Mode) (params : Params) (data : Value) : Outcome := do
  let limits ← Limits.ofParams params
  match data with
  | .text s =>
    match Net.Email.normalize? (trim s.toList) with
    | some address =>
      if s.toList.contains '<' then refuse "Data is not a valid email address."
      else if !(← params.maskAllows address) then
        refuse "Data doesn't respect contract (email doesn't match the given mask)."
      else if limits.tooShort address.length then
        refuse "Data doesn't respect contract (string too short)."
      else if limits.tooLong address.length then
        refuse "Data doesn't respect contract (string too long)."
      else acceptChars address
    | none => refuse "Data is not a valid email address."
  | _ => refuse "Data is not a valid email address."

namespace Url

/-- The components of a URL by name. -/
def components (parts : Net.UrlParts) : List (String × Value) :=
  let text (s : Option String) : Value := s.elim .null .text
  [("scheme", text parts.scheme), ("host", text parts.host), ("domain", text parts.domain),
    ("port", parts.port.elim .null fun n => .int n), ("user", text parts.user),
    ("pass", text parts.password), ("path", text parts.path), ("query", text parts.query),
    ("fragment", text parts.fragment)]

def componentNames : List String :=
  ["scheme", "host", "domain", "port", "user", "pass", "path", "query", "fragment"]

/-- The texts that a component may have, if the contract restricts it; a number is a list of its
own. -/
def allowedFor (params : Params) (name : String) : Except Failure (Option (List String)) := do
  let value := params.get name
  match ← ListParam.ofValue (if value.isNumber then .list [value] else value) name with
  | none => return none
  | some values => return some (← values.mapM fun v => do return onChars trim (← v.toText))

def allowed (params : Params) : Except Failure (List (String × List String)) :=
  componentNames.foldlM
    (fun found name => do
      match ← allowedFor params name with
      | some texts => return found ++ [(name, texts)]
      | none => return found) []

def componentText : Value → Option String
  | .text s => some s
  | .int i => some (String.ofList (Decimal.ofInt i))
  | _ => none

/-- The first component that is not among those allowed. -/
def firstBad? (parts : List (String × Value)) (allowed : List (String × List String)) :
    Option String :=
  (allowed.find? fun (name, texts) =>
    !(((parts.find? (·.1 == name)).bind fun p => componentText p.2).any texts.contains)).map (·.1)

end Url

def url (mode : Mode) (params : Params) (data : Value) : Outcome := do
  let limits ← Limits.ofParams params
  let allowed ← Url.allowed params
  match data with
  | .text s =>
    let size := s.toList.length
    if mode.strict && limits.tooLong size then
      refuse ("URL is too long (" ++ toString size ++ " for a maximum of "
        ++ toString (limits.most.getD 0) ++ ").")
    else
      let cs := limits.cut s.toList
      if limits.tooShort cs.length then refuse "Data doesn't respect contract (URL too short)."
      else if !(← params.maskAllows cs) then
        refuse "Data doesn't respect contract (URL doesn't match the given mask)."
      else if !Net.Url.isValid cs || cs.any isBlank then refuse "Data is not a valid URL."
      else
        match Net.UrlParts.read? cs with
        | none => refuse "Data is not a valid URL."
        | some parts =>
          let parts := Url.components parts
          match Url.firstBad? parts allowed with
          | some name => refuse ("Data doesn't respect contract (bad URL " ++ name ++ ").")
          | none => .ok ⟨.text (String.ofList cs), .map (parts.map fun p => (.text p.1, p.2))⟩
  | _ => refuse "Data is not a string."

/-- The version of addresses that the contract asks for. -/
def ipVersion (value : Value) : Except Failure (Option Nat) := do
  match value with
  | .null => return none
  | v =>
    let text ← v.toText
    match onChars trim text with
    | "4" => return some 4
    | "6" => return some 6
    | _ => .error (.malformed ("Bad contract 'version' parameter '" ++ text ++ "'."))

def ip (_ : Mode) (params : Params) (data : Value) : Outcome := do
  let wanted ← ipVersion (params.get "version")
  let message :=
    match wanted with
    | none => "Data is not a valid IP address."
    | some n => "Data is not a valid IPv" ++ toString n ++ " address."
  match data with
  | .text s =>
    match Net.ipVersion? s.toList with
    | some version =>
      if wanted.all (· == version) then .ok ⟨data, .int version⟩ else refuse message
    | none => refuse message
  | _ => refuse message

def mac (_ : Mode) (_ : Params) (data : Value) : Outcome :=
  match data with
  | .text s =>
    if Net.isMac (withoutLineFeed s.toList) then accept data
    else refuse "Data is not a valid MAC address."
  | _ => refuse "Data is not a valid MAC address."

end Covenant.Check
