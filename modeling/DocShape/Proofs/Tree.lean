import DocShape.Schema.Node

namespace DocShape.Node

/-! Induction over schema trees, with the fields of a map and the shapes of a sequence as
members of their lists. -/

@[elab_as_elim]
theorem induction {motive : Node → Prop}
    (map : ∀ fields allowEmpty, (∀ field ∈ fields, motive field.node) →
      motive (.map fields allowEmpty))
    (seq : ∀ variants matching, (∀ variant ∈ variants, motive variant) →
      motive (.seq variants matching))
    (scalar : ∀ leaf, motive (.scalar leaf))
    (included : ∀ name target, motive target → motive (.included name target))
    (node : Node) : motive node := by
  refine @Node.rec motive (fun fields => ∀ field ∈ fields, motive field.node)
    (fun variants => ∀ variant ∈ variants, motive variant) (fun field => motive field.node)
    ?_ ?_ ?_ ?_ ?_ ?_ ?_ ?_ ?_ node
  · exact map
  · exact seq
  · exact scalar
  · exact included
  · intro field member
    cases member
  · intro first rest ofFirst ofRest field member
    rcases List.mem_cons.mp member with rfl | later
    · exact ofFirst
    · exact ofRest field later
  · intro variant member
    cases member
  · intro first rest ofFirst ofRest variant member
    rcases List.mem_cons.mp member with rfl | later
    · exact ofFirst
    · exact ofRest variant later
  · intro _ _ _ ofNode
    exact ofNode

theorem sizeOf_field_lt {fields : List (Field Node)} {field : Field Node}
    (member : field ∈ fields) : sizeOf field.node < sizeOf fields := by
  have inList := List.sizeOf_lt_of_mem member
  cases field with
  | mk key required node =>
      simp only [Field.mk.sizeOf_spec] at inList
      simp only
      omega

/-- Every sequence in the tree, also below includes, has at least one shape for its
elements. -/
inductive Varied : Node → Prop where
  | map {fields : List (Field Node)} {allowEmpty : Bool}
      (below : ∀ field ∈ fields, Varied field.node) : Varied (.map fields allowEmpty)
  | seq {variants : List Node} {matching : Matching} (present : variants ≠ [])
      (below : ∀ variant ∈ variants, Varied variant) : Varied (.seq variants matching)
  | scalar (leaf : Scalar) : Varied (.scalar leaf)
  | included {name : String} {target : Node} (below : Varied target) :
      Varied (.included name target)

section Varied

variable {fields : List (Field Node)} {variants : List Node}

@[simp]
theorem varied_map_iff {allowEmpty : Bool} :
    (map fields allowEmpty).Varied ↔ ∀ field ∈ fields, field.node.Varied := by
  constructor
  · intro varied
    cases varied with
    | map below => exact below
  · exact .map

@[simp]
theorem varied_seq_iff {matching : Matching} :
    (seq variants matching).Varied ↔ variants ≠ [] ∧ ∀ variant ∈ variants, variant.Varied := by
  constructor
  · intro varied
    cases varied with
    | seq present below => exact ⟨present, below⟩
  · intro ⟨present, below⟩
    exact .seq present below

@[simp]
theorem varied_scalar {leaf : Scalar} : (scalar leaf).Varied := .scalar leaf

@[simp]
theorem varied_included_iff {name : String} {target : Node} :
    (included name target).Varied ↔ target.Varied := by
  constructor
  · intro varied
    cases varied with
    | included below => exact below
  · exact .included

end Varied

end DocShape.Node
