import Covenant.Config.Layer
import Covenant.Value.Merge

namespace Covenant.Config

/-- A configuration with layers laid over it. An alias of a later layer replaces an earlier one as a
whole. -/
def laidOver (base : Config) (user options : Overrides) : Entries :=
  let settings := Entries.overlayAll ({ base with aliases := [] }).toEntries
    [({ user with aliases := none }).toEntries, options.toEntries]
  settings.put (.text "aliases") (aliasTable (base.aliases.update (user.aliases.getD [])))

/-- The configuration that the layers give: the basic settings, those of the user, and those of the
command line, the last of which count most. -/
def resolve (basic user options : Value) : Checked Config := do
  let basic ← ofEntries (← layer basic)
  let user ← Overrides.ofUser (← layer user)
  let options ← Overrides.ofOptions (← layer options)
  ofEntries (laidOver basic user options)

end Covenant.Config
