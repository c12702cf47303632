import DocShape.Schema.Definition

namespace DocShape.Definition

/-! Induction over definitions, and what stands inside one: faults and includes. -/

@[elab_as_elim]
theorem induction {motive : Definition → Prop}
    (refused : ∀ error, motive (.refused error))
    (included : ∀ name, motive (.included name))
    (map : ∀ fields allowEmpty, (∀ field ∈ fields, motive field.1) →
      motive (.map fields allowEmpty))
    (seq : ∀ variants matching, (∀ variant ∈ variants, motive variant) →
      motive (.seq variants matching))
    (scalar : ∀ leaf, motive (.scalar leaf))
    (definition : Definition) : motive definition := by
  refine @Definition.rec motive (fun fields => ∀ field ∈ fields, motive field.1)
    (fun variants => ∀ variant ∈ variants, motive variant) (fun field => motive field.1)
    ?_ ?_ ?_ ?_ ?_ ?_ ?_ ?_ ?_ ?_ definition
  · exact refused
  · exact included
  · exact map
  · exact seq
  · exact scalar
  · intro field member
    cases member
  · intro first rest ofFirst ofRest field member
    rcases List.mem_cons.mp member with rfl | later
    · exact ofFirst
    · exact ofRest field later
  · intro variant member
    cases member
  · intro first rest ofFirst ofRest variant member
    rcases List.mem_cons.mp member with rfl | later
    · exact ofFirst
    · exact ofRest variant later
  · intro _ _ ofDefinition
    exact ofDefinition

/-- No fault was found anywhere in the definition. -/
inductive Sound : Definition → Prop where
  | included (name : String) : Sound (.included name)
  | map {fields : List (Definition × Except SchemaError (FieldKey × Bool))} {allowEmpty : Bool}
      (below : ∀ field ∈ fields, Sound field.1)
      (labelled : ∀ field ∈ fields, ∃ label, field.2 = .ok label) : Sound (.map fields allowEmpty)
  | seq {variants : List Definition} {matching : Matching}
      (below : ∀ variant ∈ variants, Sound variant) : Sound (.seq variants matching)
  | scalar (leaf : Scalar) : Sound (.scalar leaf)

/-- An include of `name` stands in the definition. -/
inductive Includes : Definition → String → Prop where
  | here (name : String) : Includes (.included name) name
  | field {fields : List (Definition × Except SchemaError (FieldKey × Bool))} {allowEmpty : Bool}
      {field : Definition × Except SchemaError (FieldKey × Bool)} {name : String}
      (member : field ∈ fields) (below : Includes field.1 name) :
      Includes (.map fields allowEmpty) name
  | variant {variants : List Definition} {matching : Matching} {variant : Definition}
      {name : String} (member : variant ∈ variants) (below : Includes variant name) :
      Includes (.seq variants matching) name

theorem not_sound_refused {error : SchemaError} : ¬ Sound (.refused error) := nofun

theorem sound_map_iff {fields : List (Definition × Except SchemaError (FieldKey × Bool))}
    {allowEmpty : Bool} :
    Sound (.map fields allowEmpty) ↔
      ∀ field ∈ fields, Sound field.1 ∧ ∃ label, field.2 = .ok label := by
  constructor
  · intro sound
    cases sound with
    | map below labelled => exact fun field member => ⟨below field member, labelled field member⟩
  · intro each
    exact .map (fun field member => (each field member).1) fun field member => (each field member).2

theorem sound_seq_iff {variants : List Definition} {matching : Matching} :
    Sound (.seq variants matching) ↔ ∀ variant ∈ variants, Sound variant := by
  constructor
  · intro sound
    cases sound with
    | seq below => exact below
  · exact .seq

theorem includes_included_iff {target name : String} :
    Includes (.included target) name ↔ target = name := by
  constructor
  · intro includes
    cases includes
    rfl
  · intro same
    subst same
    exact .here target

theorem not_includes_scalar {leaf : Scalar} {name : String} : ¬ Includes (.scalar leaf) name :=
  nofun

theorem includes_map_iff {fields : List (Definition × Except SchemaError (FieldKey × Bool))}
    {allowEmpty : Bool} {name : String} :
    Includes (.map fields allowEmpty) name ↔ ∃ field ∈ fields, Includes field.1 name := by
  constructor
  · intro includes
    cases includes with
    | field member below => exact ⟨_, member, below⟩
  · intro ⟨field, member, below⟩
    exact .field member below

theorem includes_seq_iff {variants : List Definition} {matching : Matching} {name : String} :
    Includes (.seq variants matching) name ↔ ∃ variant ∈ variants, Includes variant name := by
  constructor
  · intro includes
    cases includes with
    | variant member below => exact ⟨_, member, below⟩
  · intro ⟨variant, member, below⟩
    exact .variant member below

end DocShape.Definition
