import Covenant.Config.Layer
import Covenant.Filter.Pass

namespace Covenant

/-- A configuration with the registry that its contracts are read by. -/
structure Filter where
  config : Config
  registry : Registry

namespace Filter

/-- The aliases of a configuration as what is registered. -/
def aliasTargets (aliases : Named Value) : List (Value × Target) :=
  aliases.map fun e => (.text e.1, .contract e.2)

/-- A filter whose registry also has the aliases of the configuration. -/
def ofConfig (config : Config) (registry : Registry) : Except Failure Filter := do
  return ⟨config, ← registry.register (.many (aliasTargets config.aliases) none)⟩

/-- Filters data by a contract, in a mode that is the configured one if none is given. -/
def validate (filter : Filter) (data contract : Value) (strict : Option Bool) :
    Except Failure Result :=
  run filter.registry filter.config.maxDepth (filter.config.maxDepth + 1)
    (.part (strict.getD filter.config.strict)) data contract

/-- The filtered value alone. -/
def process (filter : Filter) (data contract : Value) (strict : Option Bool) :
    Except Failure Value :=
  (filter.validate data contract strict).map (·.value)

end Filter
end Covenant
