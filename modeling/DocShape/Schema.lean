import DocShape.Schema.Registry
import DocShape.Schema.Validation

namespace DocShape

/-! Schemas that are ready to check documents. -/

structure Schema where
  root : Node
  fragments : Catalog Node
  config : Config

namespace Schema

/-- Builds a schema and its fragments, with includes looked up in a registry too. -/
def ofSource (registry : Registry) : Value → Except SchemaError Schema
  | .map entries => do
      let limit := registry.config.maxDepth
      let (declared, rest) ← Source.split entries
      let scope ← Source.scopeOf registry.fragments limit declared
      let (_, built) ← scope.buildDeclared.run .empty
      let (root, fragments) ←
        (scope.build (.read limit "<root>" 0 (.map rest))).run built
      return ⟨root, fragments, registry.config⟩
  | _ => Source.malformed .sourceNotMap

def ofNode (root : Node) : Schema := ⟨root, .empty, .standard⟩

def withConfig (schema : Schema) (config : Config) : Schema := { schema with config }

def fragmentNames (schema : Schema) : List String := schema.fragments.names

def validate (schema : Schema) (document : Value) : List Violation :=
  Validation.check schema.config [] schema.root document

end Schema
end DocShape
