import Covenant.Config.Setting

/-! The layers a configuration is made of. -/

namespace Covenant

/-- A configuration: the mode around all contracts, how deep they may be nested, further aliases,
and how much is logged. -/
structure Config where
  strict : Bool
  maxDepth : Nat
  aliases : Named Value
  level : Config.Level

namespace Config

/-- What a layer changes. -/
structure Overrides where
  strict : Option Bool
  maxDepth : Option Int
  aliases : Option (Named Value)
  level : Option Level

def aliasTable (aliases : Named Value) : Value := .map (aliases.map fun e => (.text e.1, e.2))

def levelSection (level : Level) : Value := .map [(.text "level", .text level.name)]

def toEntries (config : Config) : Entries :=
  [(.text "strict", .bool config.strict), (.text "max_depth", .int config.maxDepth),
    (.text "aliases", aliasTable config.aliases), (.text "logging", levelSection config.level)]

def Overrides.toEntries (o : Overrides) : Entries :=
  (o.strict.map fun b => (.text "strict", .bool b)).toList
    ++ (o.maxDepth.map fun i => (.text "max_depth", .int i)).toList
    ++ (o.aliases.map fun a => (.text "aliases", aliasTable a)).toList
    ++ (o.level.map fun l => (.text "logging", levelSection l)).toList

/-- A setting at its place, with a default for an absent one. -/
def setting (entries : Entries) (name : String) (default : α) (read : Value → Checked α) :
    Checked α :=
  match entries.get? (.text name) with
  | some value => Checked.inside name (read value)
  | none => .ok default

/-- A setting that null leaves open. -/
def orOpen (read : Value → Checked α) (value : Value) : Checked (Option α) :=
  match value with
  | .null => .ok none
  | v => (read v).map some

def unknown? (names : List String) (key : Value) : Option Problem :=
  match key with
  | .text name => if names.contains name then none else some ⟨.unknownName, [key]⟩
  | _ => some ⟨.nameNotText, [placeOf key]⟩

/-- Refuses all names but the given ones. -/
def onlyNames (names : List String) (entries : Entries) : Checked Unit :=
  match entries.filterMap fun e => unknown? names e.1 with
  | [] => .ok ()
  | problems => .error problems

/-- The settings of a layer; whatever counts as false is an empty one. -/
def layer (value : Value) : Checked Entries :=
  match value with
  | .map entries => .ok entries
  | v => if v.isTrue then .bad .notMapping else .ok []

/-- The settings of a section inside a layer. -/
def section? (value : Value) : Checked Entries :=
  match value with
  | .map entries => .ok entries
  | _ => .bad .notMapping

/-- The least and the greatest nesting depth that may be set. -/
def depths : Int × Int := (1, 1000)

def readDepth (value : Value) : Checked Nat := do
  let depth ← readInt value
  if depth < depths.1 then .bad .tooSmall
  else if depths.2 < depth then .bad .tooLarge
  else return depth.toNat

def readLogging (value : Value) : Checked Level := do
  let entries ← section? value
  let (level, _) ←
    (setting entries "level" .warning Level.read).both (onlyNames ["level"] entries)
  return level

/-- Reads a whole configuration, with a default for each setting. -/
def ofEntries (entries : Entries) : Checked Config := do
  let (strict, maxDepth, aliases, level, _) ←
    (setting entries "strict" false readBool).both <|
    (setting entries "max_depth" 64 readDepth).both <|
    (setting entries "aliases" [] readAliases).both <|
    (setting entries "logging" .warning readLogging).both <|
    onlyNames ["strict", "max_depth", "aliases", "logging"] entries
  return ⟨strict, maxDepth, aliases, level⟩

def trueAnswers : List String := ["true", "yes", "on", "1", "y"]

def falseAnswers : List String := ["false", "no", "off", "0", "n", ""]

/-- Reads a boolean, a text being one of a few words. -/
def readAnswer (value : Value) : Checked Bool :=
  match value with
  | .text s =>
    let word := onChars (fun cs => lower (trim cs)) s
    if trueAnswers.contains word then .ok true
    else if falseAnswers.contains word then .ok false
    else .bad .badWord
  | v => readBool v

/-- The capital letter that an ASCII letter or a dotless i has. -/
def capital (c : Char) : Char := if c.toNat = 0x131 then 'I' else upperAscii c

/-- Reads a level in any case. -/
def readAnyLevel (value : Value) : Checked Level :=
  match value with
  | .text s => Level.read (.text (onChars (fun cs => (trim cs).map capital) s))
  | v => Level.read v

def readAnyLogging (value : Value) : Checked (Option Level) := do
  let entries ← section? value
  let (level, _) ←
    (setting entries "level" none (orOpen readAnyLevel)).both (onlyNames ["level"] entries)
  return level

/-- A setting under a name in capitals, or in small letters if it is not there. -/
def userSetting (entries : Entries) (name small : String) (read : Value → Checked α) :
    Checked (Option α) :=
  match entries.get? (.text name), entries.get? (.text small) with
  | some value, _ | none, some value => Checked.inside name (orOpen read value)
  | none, none => .ok none

namespace Overrides

/-- Reads the layer of a user, in which unknown names are passed over. -/
def ofUser (entries : Entries) : Checked Overrides := do
  let (strict, maxDepth, aliases, level, logging) ←
    (userSetting entries "STRICT" "strict" readAnswer).both <|
    (userSetting entries "MAX_DEPTH" "max_depth" readInt).both <|
    (userSetting entries "ALIASES" "aliases" readAliases).both <|
    (userSetting entries "LOG_LEVEL" "log_level" readAnyLevel).both <|
    setting entries "logging" none (orOpen readAnyLogging)
  return ⟨strict, maxDepth, aliases, logging.join <|> level⟩

/-- Reads the layer of a command line. -/
def ofOptions (entries : Entries) : Checked Overrides := do
  let (strict, level, _) ←
    (setting entries "strict" none (orOpen readBool)).both <|
    (setting entries "log_level" none (orOpen Level.read)).both <|
    onlyNames ["strict", "log_level"] entries
  return ⟨strict, none, none, level⟩

end Overrides
end Config
end Covenant
