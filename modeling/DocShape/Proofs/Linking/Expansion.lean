import DocShape.Proofs.Definition
import DocShape.Proofs.Opening
import DocShape.Proofs.Tree

namespace DocShape

/-! Linking without a table of finished fragments: every include is built anew from its
declaration.  Trees that come out of it know what each of their includes stands for.
-/

/-- An include of `name` with this target stands in the tree, outside the targets of other
includes. -/
inductive Node.Includes : Node → String → Node → Prop where
  | here (name : String) (target : Node) : Includes (.included name target) name target
  | field {fields : List (Field Node)} {allowEmpty : Bool} {field : Field Node} {name : String}
      {target : Node} (member : field ∈ fields) (below : Includes field.node name target) :
      Includes (.map fields allowEmpty) name target
  | variant {variants : List Node} {matching : Matching} {variant : Node} {name : String}
      {target : Node} (member : variant ∈ variants) (below : Includes variant name target) :
      Includes (.seq variants matching) name target

theorem Node.Includes.sizeOf_lt {node target : Node} {name : String}
    (includes : node.Includes name target) : sizeOf target < sizeOf node := by
  induction includes with
  | here name target =>
      rw [Node.included.sizeOf_spec]
      omega
  | field member _ smaller =>
      have inFields := Node.sizeOf_field_lt member
      rw [Node.map.sizeOf_spec]
      omega
  | variant member _ smaller =>
      have inVariants := List.sizeOf_lt_of_mem member
      rw [Node.seq.sizeOf_spec]
      omega

namespace Definition

mutual

/-- The node of a definition, given what each include stands for. -/
def expand (lookUp : String → Except SchemaError Node) :
    Definition → Except SchemaError Node
  | .refused error => .error error
  | .included name => do return .included name (← lookUp name)
  | .map fields allowEmpty => do return .map (← expandFields lookUp fields) allowEmpty
  | .seq variants matching => do return .seq (← expandVariants lookUp variants) matching
  | .scalar leaf => return .scalar leaf

def expandFields (lookUp : String → Except SchemaError Node) :
    List (Definition × Except SchemaError (FieldKey × Bool)) →
      Except SchemaError (List (Field Node))
  | [] => return []
  | (definition, label) :: rest => do
      let node ← expand lookUp definition
      let (key, required) ← label
      return ⟨key, required, node⟩ :: (← expandFields lookUp rest)

def expandVariants (lookUp : String → Except SchemaError Node) :
    List Definition → Except SchemaError (List Node)
  | [] => return []
  | variant :: rest => do
      let node ← expand lookUp variant
      return node :: (← expandVariants lookUp rest)

end

end Definition

namespace Scope

/-- What a name stands for, with no memory of what was built before: a declared fragment is
built from its declaration wherever it is included. -/
def rebuild (scope : Scope) : (room : Nat) → (opened : List String) → String →
    Except SchemaError Node
  | room, opened, name =>
      if opened.contains name then .error (.includeCycle (opened ++ [name]))
      else
        match scope.declared.find? name with
        | some definition =>
            match room with
            | 0 => .error (.includeCycle (opened ++ [name]))
            | room + 1 => definition.expand (scope.rebuild room (opened ++ [name]))
        | none =>
            match scope.registered.find? name with
            | some node => .ok node
            | none => .error (.unresolvedInclude name)

/-- What a name stands for where no fragment is being built. -/
def rebuilt (scope : Scope) (name : String) : Except SchemaError Node :=
  scope.rebuild scope.declared.size [] name

end Scope

namespace Definition

variable {lookUp : String → Except SchemaError Node}

theorem expandFields_eq_ok_iff
    {definitions : List (Definition × Except SchemaError (FieldKey × Bool))}
    {fields : List (Field Node)} :
    expandFields lookUp definitions = .ok fields ↔
      List.Forall₂ (fun definition field => definition.1.expand lookUp = .ok field.node ∧
        definition.2 = .ok (field.key, field.required)) definitions fields := by
  induction definitions generalizing fields with
  | nil =>
      simp only [expandFields, pure_eq_ok, List.forall₂_nil_left_iff]
      exact eq_comm
  | cons first rest inRest =>
      obtain ⟨definition, label⟩ := first
      simp only [expandFields, bind_eq_ok, pure_eq_ok, inRest, List.forall₂_cons_left_iff]
      constructor
      · rintro ⟨node, expanded, ⟨key, required⟩, labelled, others, related, rfl⟩
        exact ⟨_, _, ⟨expanded, labelled⟩, related, rfl⟩
      · rintro ⟨⟨key, required, node⟩, others, ⟨expanded, labelled⟩, related, rfl⟩
        exact ⟨node, expanded, (key, required), labelled, others, related, rfl⟩

theorem expandVariants_eq_ok_iff {definitions : List Definition} {variants : List Node} :
    expandVariants lookUp definitions = .ok variants ↔
      List.Forall₂ (fun definition variant => definition.expand lookUp = .ok variant)
        definitions variants := by
  induction definitions generalizing variants with
  | nil =>
      simp only [expandVariants, pure_eq_ok, List.forall₂_nil_left_iff]
      exact eq_comm
  | cons first rest inRest =>
      simp only [expandVariants, bind_eq_ok, pure_eq_ok, inRest, List.forall₂_cons_left_iff]
      constructor
      · rintro ⟨node, expanded, others, related, rfl⟩
        exact ⟨_, _, expanded, related, rfl⟩
      · rintro ⟨node, others, expanded, related, rfl⟩
        exact ⟨node, expanded, others, related, rfl⟩

theorem expand_included_eq_ok_iff {name : String} {node : Node} :
    expand lookUp (.included name) = .ok node ↔
      ∃ target, lookUp name = .ok target ∧ .included name target = node := by
  simp only [expand, bind_eq_ok, pure_eq_ok]

theorem expand_map_eq_ok_iff
    {definitions : List (Definition × Except SchemaError (FieldKey × Bool))}
    {allowEmpty : Bool} {node : Node} :
    expand lookUp (.map definitions allowEmpty) = .ok node ↔
      ∃ fields, List.Forall₂ (fun definition field => definition.1.expand lookUp = .ok field.node ∧
          definition.2 = .ok (field.key, field.required)) definitions fields ∧
        .map fields allowEmpty = node := by
  simp only [expand, bind_eq_ok, pure_eq_ok, expandFields_eq_ok_iff]

theorem expand_seq_eq_ok_iff {definitions : List Definition} {matching : Matching}
    {node : Node} :
    expand lookUp (.seq definitions matching) = .ok node ↔
      ∃ variants, List.Forall₂ (fun definition variant => definition.expand lookUp = .ok variant)
          definitions variants ∧ .seq variants matching = node := by
  simp only [expand, bind_eq_ok, pure_eq_ok, expandVariants_eq_ok_iff]

theorem expand_refused_ne_ok {error : SchemaError} {node : Node} :
    expand lookUp (.refused error) ≠ .ok node := by
  simp [expand]

/-- Each include in a built tree has the target that its name stands for. -/
theorem lookUp_of_includes {definition : Definition} {node target : Node} {name : String}
    (expanded : definition.expand lookUp = .ok node) (includes : node.Includes name target) :
    lookUp name = .ok target := by
  induction definition using Definition.induction generalizing node with
  | refused error => exact absurd expanded expand_refused_ne_ok
  | included wanted =>
      obtain ⟨found, looked, rfl⟩ := expand_included_eq_ok_iff.mp expanded
      cases includes
      exact looked
  | map definitions allowEmpty ofField =>
      obtain ⟨fields, related, rfl⟩ := expand_map_eq_ok_iff.mp expanded
      cases includes with
      | field member below =>
          obtain ⟨definition, inDefinitions, expandedField, _⟩ := source_of_mem related member
          exact ofField definition inDefinitions expandedField below
  | seq definitions matching ofVariant =>
      obtain ⟨variants, related, rfl⟩ := expand_seq_eq_ok_iff.mp expanded
      cases includes with
      | variant member below =>
          obtain ⟨definition, inDefinitions, expandedVariant⟩ := source_of_mem related member
          exact ofVariant definition inDefinitions expandedVariant below
  | scalar leaf =>
      cases expanded
      cases includes

/-- A tree is built alike from any other source of fragments that knows what its includes
stand for. -/
theorem expand_of_includes {other : String → Except SchemaError Node} {definition : Definition}
    {node : Node} (expanded : definition.expand lookUp = .ok node)
    (known : ∀ name target, node.Includes name target → other name = .ok target) :
    definition.expand other = .ok node := by
  induction definition using Definition.induction generalizing node with
  | refused error => exact absurd expanded expand_refused_ne_ok
  | included wanted =>
      obtain ⟨found, _, rfl⟩ := expand_included_eq_ok_iff.mp expanded
      exact expand_included_eq_ok_iff.mpr ⟨found, known _ _ (.here wanted found), rfl⟩
  | map definitions allowEmpty ofField =>
      obtain ⟨fields, related, rfl⟩ := expand_map_eq_ok_iff.mp expanded
      refine expand_map_eq_ok_iff.mpr ⟨fields, forall₂_of_mem related ?_, rfl⟩
      rintro definition inDefinitions field inFields ⟨expandedField, labelled⟩
      exact ⟨ofField definition inDefinitions expandedField
        fun name target below => known name target (.field inFields below), labelled⟩
  | seq definitions matching ofVariant =>
      obtain ⟨variants, related, rfl⟩ := expand_seq_eq_ok_iff.mp expanded
      refine expand_seq_eq_ok_iff.mpr ⟨variants, forall₂_of_mem related ?_, rfl⟩
      intro definition inDefinitions variant inVariants expandedVariant
      exact ofVariant definition inDefinitions expandedVariant
        fun name target below => known name target (.variant inVariants below)
  | scalar leaf => exact expanded

theorem expand_mono {other : String → Except SchemaError Node} {definition : Definition}
    {node : Node} (known : ∀ name target, lookUp name = .ok target → other name = .ok target)
    (expanded : definition.expand lookUp = .ok node) : definition.expand other = .ok node :=
  expand_of_includes expanded fun name target includes =>
    known name target (lookUp_of_includes expanded includes)

end Definition
end DocShape
