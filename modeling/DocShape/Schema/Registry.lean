import DocShape.Schema.Source

namespace DocShape

/-! Registries of linked fragments that schemas may include. -/

structure Registry where
  fragments : Catalog Node
  config : Config

namespace Registry

def withConfig (config : Config) : Registry := ⟨.empty, config⟩

def empty : Registry := withConfig .standard

instance : Inhabited Registry := ⟨empty⟩

def get? (registry : Registry) (name : String) : Option Node := registry.fragments.find? name

def contains (registry : Registry) (name : String) : Bool := registry.fragments.contains name

def names (registry : Registry) : List String := registry.fragments.names

def size (registry : Registry) : Nat := registry.fragments.size

/-- Stores a finished node under a name that is not taken. -/
def register (registry : Registry) (name : String) (node : Node) :
    Except SchemaError Registry :=
  if registry.contains name then .error (.duplicateFragment name)
  else .ok { registry with fragments := registry.fragments.insert name node }

def including (registry : Registry) (name : String) : Except SchemaError Node :=
  match registry.get? name with
  | some target => .ok (.included name target)
  | none => .error (.unresolvedInclude name)

/-- Builds declared fragments and stores all of them, or none if one fails.  The names are
those stored, in order. -/
def absorb (registry : Registry) (declared : Catalog Value) :
    Except SchemaError (Registry × List String) := do
  let scope ← Source.scopeOf registry.fragments registry.config.maxDepth declared
  let (_, built) ← scope.buildDeclared.run .empty
  return ({ registry with fragments := registry.fragments.extend built }, built.names)

def registerSource (registry : Registry) (source : Value) :
    Except SchemaError (Registry × List String) := do
  registry.absorb (← Source.fragmentsOf source)

end Registry
end DocShape
