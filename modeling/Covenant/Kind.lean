import Covenant.Check.Binary
import Covenant.Check.Codes
import Covenant.Check.Composite
import Covenant.Check.Geo
import Covenant.Check.Network
import Covenant.Check.Scalar
import Covenant.Check.Temporal

namespace Covenant

/-- The kinds of data that have a check of their own. -/
inductive Kind where
  | null
  | bool
  | int
  | float
  | string
  | email
  | url
  | enum
  | list
  | assoc
  | json
  | date
  | time
  | datetime
  | uuid
  | isbn
  | ean
  | ip
  | mac
  | slug
  | base64
  | binary
  | color
  | geo
  | phone
  | hash
  deriving DecidableEq

namespace Kind

/-- The kinds by the type token that stands for each at first. -/
def byToken : Named Kind :=
  [("null", null), ("bool", bool), ("int", int), ("float", float), ("string", string),
    ("email", email), ("url", url), ("enum", enum), ("list", list), ("assoc", assoc),
    ("json", json), ("date", date), ("time", time), ("datetime", datetime), ("uuid", uuid),
    ("isbn", isbn), ("ean", ean), ("ip", ip), ("mac", mac), ("slug", slug), ("base64", base64),
    ("binary", binary), ("color", color), ("geo", geo), ("phone", phone), ("hash", hash)]

/-- Checks data, defaults apart. -/
def check (kind : Kind) (inner : Check.Delegate) (mode : Mode) (params : Params) (data : Value) :
    Outcome :=
  match kind with
  | null => Check.null mode params data
  | bool => Check.bool mode params data
  | int => Check.int mode params data
  | float => Check.float mode params data
  | string => Check.string mode params data
  | email => Check.email mode params data
  | url => Check.url mode params data
  | enum => Check.enum mode params data
  | list => Check.list inner mode params data
  | assoc => Check.assoc inner mode params data
  | json => Check.json inner mode params data
  | date => Check.Temporal.date.check mode params data
  | time => Check.Temporal.time.check mode params data
  | datetime => Check.Temporal.datetime.check mode params data
  | uuid => Check.uuid mode params data
  | isbn => Check.isbn mode params data
  | ean => Check.ean mode params data
  | ip => Check.ip mode params data
  | mac => Check.mac mode params data
  | slug => Check.slug mode params data
  | base64 => Check.base64 inner.content mode params data
  | binary => Check.binary mode params data
  | color => Check.color mode params data
  | geo => Check.Geo.check mode params data
  | phone => Check.phone mode params data
  | hash => Check.hash mode params data

/-- The native value that a default in the compact notation stands for. -/
def readDefault (kind : Kind) (default : Value) : Except Failure Value :=
  match kind, default with
  | bool, .text s =>
    let word := onChars (fun cs => lower (trim cs)) s
    if word == "true" then .ok (.bool true)
    else if word == "false" then .ok (.bool false)
    else .ok default
  | int, .text _ => do return (← Loose.toInt? default).elim default .int
  | float, .text _ => do return (← Loose.toFloat? default).elim default .float
  | _, _ => .ok default

def nativeDefault (kind : Kind) (mode : Mode) (default : Value) : Except Failure Value :=
  if mode.inline then kind.readDefault default else .ok default

/-- Checks data, or its default when the data is refused. The default has no default. -/
def validate (kind : Kind) (inner : Check.Delegate) (mode : Mode) (params : Params) (data : Value) :
    Except Failure Result :=
  match kind.check inner mode params data with
  | .ok result => .ok result
  | .error (.failed failure) => .error failure
  | .error (.refused message) =>
    match params.get "default" with
    | .null => .error (.rejected message)
    | default => do
      let default ← kind.nativeDefault mode default
      match kind.check inner mode (params.put "default" .null) default with
      | .ok result => .ok result
      | .error (.failed failure) => .error failure
      | .error (.refused message) => .error (.rejected message)

end Kind
end Covenant
