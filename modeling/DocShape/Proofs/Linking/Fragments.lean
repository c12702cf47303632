import DocShape.Proofs.Linking.Rebuilding
import DocShape.Proofs.Source
import DocShape.Schema

namespace DocShape

/-! The fragments of a schema and the root that includes them, against their declarations. -/

namespace Source

variable {entries : Entries} {registered : Catalog Node} {limit : Nat} {name : String}

/-- The body of a source: its entries without the declarations of fragments. -/
def body (limit : Nat) (entries : Entries) : Definition :=
  .read limit "<root>" 0 (.map (remaining entries))

theorem mem_names_fragments_iff (distinct : ((declarations entries).map (·.1)).Nodup) :
    name ∈ (fragments entries).names ↔ ∃ body, Declares entries name body := by
  simp only [Catalog.mem_names_iff, fragments, Catalog.find?_ofList_eq_some_iff distinct,
    mem_declarations_iff]

theorem scope_declared_iff {definition : Definition}
    (distinct : ((declarations entries).map (·.1)).Nodup) :
    (scope registered limit entries).declared.find? name = some definition ↔
      ∃ body, Declares entries name body ∧
        Definition.read limit (fragmentPath name) 0 body = definition := by
  simp only [scope, Catalog.find?_map, Option.map_eq_some_iff, fragments,
    Catalog.find?_ofList_eq_some_iff distinct, mem_declarations_iff]

theorem scope_contains_iff (distinct : ((declarations entries).map (·.1)).Nodup) :
    (scope registered limit entries).declared.contains name = true ↔
      ∃ body, Declares entries name body := by
  rw [Catalog.contains_iff]
  constructor
  · intro ⟨_, found⟩
    obtain ⟨body, declares, _⟩ := (scope_declared_iff distinct).mp found
    exact ⟨body, declares⟩
  · intro ⟨body, declares⟩
    exact ⟨_, (scope_declared_iff distinct).mpr ⟨body, declares, rfl⟩⟩

end Source

namespace Schema

variable {registry : Registry} {entries : Entries} {schema : Schema}

/-- What a name stands for: the schema's own fragment, or without one the registered one. -/
def target? (schema : Schema) (registry : Registry) (name : String) : Option Node :=
  if schema.fragments.contains name then schema.fragments.find? name else registry.get? name

/-- A schema is what its source declares, with every include built anew where it stands. -/
structure Rebuilt (registry : Registry) (entries : Entries) (schema : Schema) : Prop where
  sorted : schema.fragmentNames.Pairwise (· < ·)
  named : ∀ name, name ∈ schema.fragmentNames ↔ ∃ body, Source.Declares entries name body
  fragment : ∀ name node, schema.fragments.find? name = some node →
    (Source.scope registry.fragments registry.config.maxDepth entries).rebuilt name = .ok node
  root : (Source.body registry.config.maxDepth entries).expand
    (Source.scope registry.fragments registry.config.maxDepth entries).rebuilt = .ok schema.root
  rootIncludes : ∀ name target, schema.root.Includes name target →
    schema.target? registry name = some target
  fragmentIncludes : ∀ outer node, schema.fragments.find? outer = some node →
    ∀ name target, node.Includes name target → schema.target? registry name = some target

theorem ofSource_eq_ok_iff {source : Value} :
    ofSource registry source = .ok schema ↔
      ∃ entries, source = .map entries ∧
        (∀ declaration ∈ Source.declarations entries, declaration.1 ≠ "") ∧
        ((Source.declarations entries).map (·.1)).Nodup ∧
        (∀ name ∈ (Source.fragments entries).names, registry.fragments.contains name = false) ∧
        ∃ built, (Source.scope registry.fragments registry.config.maxDepth entries).buildDeclared
            .empty = .ok ((), built) ∧
          ∃ root fragments,
            (Source.scope registry.fragments registry.config.maxDepth entries).build
                (Source.body registry.config.maxDepth entries) built = .ok (root, fragments) ∧
              ⟨root, fragments, registry.config⟩ = schema := by
  cases source with
  | map entries =>
      simp only [ofSource, StateT.run, bind_eq_ok, pure_eq_ok, Source.split_eq_ok_iff, Prod.exists,
        Value.map.injEq, exists_eq_left', Prod.mk.injEq]
      constructor
      · rintro ⟨_, _, ⟨nonempty, distinct, rfl, rfl⟩, _, settled, _, built, filled, root,
          fragments, linked, made⟩
        obtain ⟨free, rfl⟩ := Source.scopeOf_eq_ok_iff.mp settled
        exact ⟨nonempty, distinct, free, built, filled, root, fragments, linked, made⟩
      · rintro ⟨nonempty, distinct, free, built, filled, root, fragments, linked, made⟩
        exact ⟨_, _, ⟨nonempty, distinct, rfl, rfl⟩, _, Source.scopeOf_eq_ok_iff.mpr ⟨free, rfl⟩, (),
          built, filled, root, fragments, linked, made⟩
  | _ => simp [ofSource, Source.malformed]

theorem target?_eq_some_iff {scope : Scope} (registered : scope.registered = registry.fragments)
    (complete : ∀ name, schema.fragments.contains name = scope.declared.contains name)
    {name : String} {target : Node} :
    schema.target? registry name = some target ↔
      scope.available schema.fragments name = .ok target := by
  rw [Scope.available_eq_ok_iff, target?, complete name, registered, Registry.get?]

/-- Building a schema keeps a table of finished fragments; what comes out is the same as
without one. -/
theorem ofSource_rebuilt {source : Value} (made : ofSource registry source = .ok schema) :
    ∃ entries, source = .map entries ∧ Rebuilt registry entries schema := by
  obtain ⟨entries, rfl, _, distinct, _, built, filled, root, fragments, linkedRoot, rfl⟩ :=
    ofSource_eq_ok_iff.mp made
  obtain ⟨toBuilt, present⟩ := Scope.buildDeclared_fills Scope.linked_empty filled
  obtain ⟨toFragments, expanded⟩ :=
    Scope.link_built (Scope.resolve_resolves _ []) _ _ _ _ toBuilt.linked linkedRoot
  have linked := toFragments.linked
  have complete := Scope.contains_of_filled linked (present.mono toFragments.keeps)
  refine ⟨entries, rfl, ?_⟩
  constructor
  case sorted => exact Catalog.names_pairwise
  case named =>
    intro name
    rw [fragmentNames, Catalog.mem_names_iff, ← Catalog.contains_iff, complete name,
      Source.scope_contains_iff distinct]
  case fragment =>
    intro name node found
    exact Scope.rebuilt_of_available linked (Scope.available_of_find? linked found)
  case root =>
    exact Definition.expand_mono
      (fun name node found => Scope.rebuilt_of_available linked found) expanded
  case rootIncludes =>
    intro name target includes
    exact (target?_eq_some_iff rfl complete).mpr (Definition.lookUp_of_includes expanded includes)
  case fragmentIncludes =>
    intro outer node found name target includes
    obtain ⟨definition, _, expandedFragment⟩ := linked outer node found
    exact (target?_eq_some_iff rfl complete).mpr
      (Definition.lookUp_of_includes expandedFragment includes)

/-- A source whose first fragment includes a later one and a registered one. -/
def forwardSource : Value := .map
  [(.string "schema;outer", .map [(.string "seq",
      .seq [.map [(.string "include", .string "inner")], .map [(.string "include", .string "base")]])]),
    (.string "schema;inner", .map [(.string "type", .string "bool")]),
    (.string "map", .map
      [(.string "first", .map [(.string "include", .string "outer")]),
        (.string "second", .map [(.string "include", .string "inner")])])]

def forwardRegistry : Registry := ⟨.ofList [("base", .scalar (.ofKind .int))], .standard⟩

theorem ofSource_rebuilt_forward :
    ∃ schema, ofSource forwardRegistry forwardSource = .ok schema ∧
      schema.fragmentNames = ["inner", "outer"] ∧
        ∃ entries, forwardSource = .map entries ∧ Rebuilt forwardRegistry entries schema := by
  have named : (ofSource forwardRegistry forwardSource).toOption.map fragmentNames =
      some ["inner", "outer"] := by
    decide +kernel
  obtain ⟨schema, found, names⟩ := Option.map_eq_some_iff.mp named
  have made : ofSource forwardRegistry forwardSource = .ok schema := by
    cases result : ofSource forwardRegistry forwardSource with
    | error error => simp [result, Except.toOption] at found
    | ok built => simpa [result, Except.toOption] using found
  exact ⟨schema, made, names, ofSource_rebuilt made⟩

end Schema
end DocShape
