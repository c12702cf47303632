import DocShape.Catalog
import DocShape.Schema.Definition

namespace DocShape

/-! Linking: replacing the includes of definitions by the fragments they name.

A fragment declared in the same source is built when it is first asked for, so fragments
may include each other in any order.  Every fragment that is being built is open; asking
for an open one is a cycle.
-/

/-- The fragments built so far, threaded through a computation that may fail. -/
abbrev Linking := StateT (Catalog Node) (Except SchemaError)

namespace Linking

def fail {α : Type} (error : SchemaError) : Linking α := fun _ => .error error

def ofExcept {α : Type} (result : Except SchemaError α) : Linking α :=
  match result with
  | .ok found => pure found
  | .error error => fail error

end Linking

namespace Definition

mutual

def link (resolve : String → Linking Node) : Definition → Linking Node
  | .refused error => Linking.fail error
  | .included name => do return .included name (← resolve name)
  | .map fields allowEmpty => do return .map (← linkFields resolve fields) allowEmpty
  | .seq variants matching => do return .seq (← linkVariants resolve variants) matching
  | .scalar leaf => return .scalar leaf

def linkFields (resolve : String → Linking Node) :
    List (Definition × Except SchemaError (FieldKey × Bool)) → Linking (List (Field Node))
  | [] => return []
  | (definition, label) :: rest => do
      let node ← link resolve definition
      let (key, required) ← Linking.ofExcept label
      return ⟨key, required, node⟩ :: (← linkFields resolve rest)

def linkVariants (resolve : String → Linking Node) : List Definition → Linking (List Node)
  | [] => return []
  | variant :: rest => do
      let node ← link resolve variant
      return node :: (← linkVariants resolve rest)

end

end Definition

/-- What an include can name: the fragments of a registry, and those declared beside it. -/
structure Scope where
  registered : Catalog Node
  declared : Catalog Definition

namespace Scope

/-- The node that a name stands for.  `opened` holds the fragments being built, outermost
first; `room` bounds how many more can be opened, and as many as are declared suffice. -/
def resolve (scope : Scope) : (room : Nat) → (opened : List String) → String → Linking Node
  | room, opened, name => do
      match (← get).find? name with
      | some node => return node
      | none =>
          if opened.contains name then Linking.fail (.includeCycle (opened ++ [name]))
          else
            match scope.declared.find? name with
            | some definition =>
                match room with
                | 0 => Linking.fail (.includeCycle (opened ++ [name]))
                | room + 1 => do
                    let node ← definition.link (scope.resolve room (opened ++ [name]))
                    modify fun built => built.insert name node
                    return node
            | none =>
                match scope.registered.find? name with
                | some node => return node
                | none => Linking.fail (.unresolvedInclude name)

/-- The node that a name stands for when no fragment is being built. -/
def lookUp (scope : Scope) (name : String) : Linking Node :=
  scope.resolve scope.declared.size [] name

/-- Builds every declared fragment, whether it is included anywhere or not. -/
def buildDeclared (scope : Scope) : Linking Unit :=
  scope.declared.names.forM fun name => discard (scope.lookUp name)

def build (scope : Scope) (definition : Definition) : Linking Node :=
  definition.link scope.lookUp

end Scope
end DocShape
