import Covenant.Check.Basic
import Covenant.JsonText.Reader
import Covenant.JsonText.Writer
import Covenant.Record

/-! Lists, records and JSON texts, whose parts have contracts of their own. -/

namespace Covenant.Check

/-- What a check hands on: a part of the data with its contract, and the content of base64 with the
parameters it is held to. -/
structure Delegate where
  part : Value → Value → Except Failure Result
  content : Params → Value → Except Failure Result

/-- The elements of a list; loosely, whatever has elements in order is a list. -/
def elements? (strict : Bool) : Value → Option (List Value)
  | .list items | .tuple items => some items
  | .deque items => if strict then none else some items
  | _ => none

/-- One element of a list against its contract. -/
def element (inner : Delegate) (index : Nat) (contract item : Value) : Except Stop Value :=
  match inner.part item contract with
  | .ok result => .ok result.value
  | .error (.rejected _) =>
    refuse ("Data doesn't respect contract (bad value for element " ++ toString index ++ ").")
  | .error failure => .error (.failed failure)

/-- The elements from an index on, all against one contract. -/
def uniform (inner : Delegate) (contract : Value) : Nat → List Value → Except Stop (List Value)
  | _, [] => .ok []
  | index, item :: items => do
    let value ← element inner index contract item
    return value :: (← uniform inner contract (index + 1) items)

/-- The entry of a list of contracts, or of the keys of a record, that stands for all the rest. -/
def restMarker : String := "..."

def trimText : Value → Value
  | .text s => .text (onChars trim s)
  | v => v

def miscounted : Except Stop α :=
  refuse "Data doesn't respect contract (bad number of elements in list)."

/-- The elements from an index on, each against its own contract. -/
def positional (inner : Delegate) (strict : Bool) :
    Nat → List Value → List Value → Except Stop (List Value)
  | _, [], [] => .ok []
  | _, [], _ :: _ => if strict then miscounted else .ok []
  | _, _ :: _, [] => if strict then miscounted else .ok []
  | index, item :: items, contract :: contracts => do
    let contract := trimText contract
    if contract.equals (.text restMarker) then return item :: items
    else
      let value ← element inner index contract item
      return value :: (← positional inner strict (index + 1) items contracts)

/-- The contracts of the elements by position. -/
def positions (values : Value) : Except Failure (List Value) :=
  match values with
  | .text s => do return (← Record.split s).map .text
  | .list items | .tuple items => .ok items
  | _ => .error (badParameter "values")

def list (inner : Delegate) (mode : Mode) (params : Params) (data : Value) : Outcome := do
  let limits ← Limits.ofParams params
  let values := params.get "values"
  match elements? mode.strict data with
  | none => refuse "Data doesn't respect contract (not a list)."
  | some items =>
    if mode.strict && limits.tooLong items.length then
      refuse "Data size doesn't respect the contract (list too long)."
    else
      let items := limits.cut items
      if limits.tooShort items.length then
        refuse "Data size doesn't respect the contract (list too short)."
      else if values.isTrue then
        accept (.list (← positional inner mode.strict 0 items (← positions values)))
      else
        match params.get "contract" with
        | .null => accept (.list items)
        | contract => accept (.list (← uniform inner contract 0 items))

/-- The names, or the contracts, that stand for all keys that are not declared. -/
def wildcards : List String := [restMarker, "…"]

def isWildcard : Value → Bool
  | .text s => wildcards.contains s
  | _ => false

/-- The declared keys of a record with their contracts. -/
def recordKeys (params : Params) : Except Failure Entries := do
  let keys ←
    match params.get "keys" with
    | .null => .ok []
    | .text s =>
      let names := (splitWhere (· == ',') s.toList).map trim
      .ok ((names.filter (!·.isEmpty)).map fun name => (.text (String.ofList name), .null))
    | .list items | .tuple items => .ok (items.map fun name => (name, .null))
    | .map entries => .ok entries
    | _ => .error (badParameter "keys")
  require (!keys.isEmpty) "Associative array without sub-keys contract."
  return keys

/-- An entry among the keys of a record. -/
inductive Field where
  /-- Undeclared keys are kept, under a contract if one is given. -/
  | others (contract : Option Value)
  | named (name : String) (mandatory : Bool) (contract : Value)

namespace Field

/-- The name and whether it is mandatory: a question mark at the end makes it optional. -/
def readName (name : String) : String × Bool :=
  if name.toList.getLast? = some '?' then (onChars List.dropLast name, false) else (name, true)

/-- A mandatory flag is taken off the contract of a field that is not optional by its name. -/
def ofNamed (name : String) (contract : Value) : Field :=
  match readName name, contract with
  | (name, true), .map entries =>
    match Entries.get? entries (.text "mandatory") with
    | some flag =>
      .named name flag.isTrue (.map (entries.filter fun e => !e.1.equals (.text "mandatory")))
    | none => .named name true contract
  | (name, mandatory), contract => .named name mandatory contract

def ofEntry (key contract : Value) : Except Failure Field :=
  match key with
  | .text name =>
    if isWildcard key then .ok (.others (if isWildcard contract then none else some contract))
    else if isWildcard contract then .ok (.others none)
    else .ok (ofNamed name contract)
  | _ => .error (badParameter "keys")

end Field

/-- What is known of a record while its fields are read. A wildcard is some contract, which may be
null. -/
structure Reading where
  declared : List String
  wildcard : Option Value
  output : Entries

/-- Checks the declared fields one after the other. The parts of a record that are rejected are not
mended by a default of the record. -/
def readFields (inner : Delegate) (data : Entries) : Reading → Entries → Except Stop Reading
  | reading, [] => .ok reading
  | reading, (key, contract) :: rest => do
    match ← Field.ofEntry key contract with
    | .others contract =>
      let known := reading.wildcard.getD .null
      readFields inner data { reading with wildcard := some (contract.getD known) } rest
    | .named name mandatory contract =>
      let reading := { reading with declared := name :: reading.declared }
      match data.get? (.text name) with
      | some value =>
        let result ← inner.part value contract
        let output := reading.output.put (.text name) result.value
        readFields inner data { reading with output := output } rest
      | none =>
        if mandatory then
          refuse ("Data doesn't respect contract (mandatory key '" ++ name ++ "').")
        else readFields inner data reading rest

/-- Adds the undeclared keys. -/
def keepOthers (inner : Delegate) (contract : Value) : Entries → Entries → Except Failure Entries
  | output, [] => .ok output
  | output, (key, value) :: rest =>
    if contract.isTrue then do
      let result ← inner.part value contract
      keepOthers inner contract (output.put key result.value) rest
    else keepOthers inner contract (output.put key value) rest

def isDeclared (names : List String) : Value → Bool
  | .text name => names.contains name
  | _ => false

def assoc (inner : Delegate) (mode : Mode) (params : Params) (data : Value) : Outcome := do
  let keys ← recordKeys params
  match data with
  | .map entries =>
    let reading ← readFields inner entries ⟨[], none, []⟩ keys
    let others := entries.filter fun e => !isDeclared reading.declared e.1
    match reading.wildcard with
    | some contract => accept (.map (← keepOthers inner contract reading.output others))
    | none =>
      if mode.strict && !others.isEmpty then
        let names ← others.mapM fun e => e.1.toText
        refuse ("Data doesn't respect contract (extra keys '" ++ join ", " names ++ "').")
      else accept (.map reading.output)
  | _ => refuse "Data doesn't respect contract (not an associative array)."

/-- A JSON text stays as it is, unless the contract of its content changed the content. -/
def json (inner : Delegate) (_ : Mode) (params : Params) (data : Value) : Outcome := do
  let limits ← Limits.ofParams params
  let contract := params.get "contract"
  match data with
  | .text s =>
    let size := s.utf8ByteSize
    if s == "" then refuse "Data is not a valid JSON string."
    else if limits.tooShort size || limits.tooLong size then
      refuse "JSON data size doesn't respect minLen/maxLen."
    else
      match JsonText.read false s.toList with
      | .error _ => refuse "Data is not a valid JSON string."
      | .ok content =>
        if !contract.isTrue then return ⟨data, content⟩
        else
          match inner.part content contract with
          | .ok result =>
            if result.value.equals content then return ⟨data, result.value⟩
            else return ⟨.text (← JsonText.write false result.value), result.value⟩
          | .error (.rejected message) => refuse message
          | .error failure => .error (.failed failure)
  | _ => refuse "Data is not a valid JSON string."

end Covenant.Check
