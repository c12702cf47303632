import DocShape.Proofs.Linking.Expansion
import DocShape.Proofs.Validation.Outcomes
import DocShape.Schema
import Mathlib.Data.List.Basic

namespace DocShape

/-! Validation does not see includes: a tree that has the fragments themselves in their places
gives the same report, word for word.
-/

namespace Node

mutual

/-- The tree with each include replaced by its target, also inside the targets. -/
def inlined : Node → Node
  | .map fields allowEmpty => .map (inlinedFields fields) allowEmpty
  | .seq variants matching => .seq (inlinedVariants variants) matching
  | .scalar leaf => .scalar leaf
  | .included _ target => target.inlined

def inlinedFields : List (Field Node) → List (Field Node)
  | [] => []
  | ⟨key, required, node⟩ :: rest => ⟨key, required, node.inlined⟩ :: inlinedFields rest

def inlinedVariants : List Node → List Node
  | [] => []
  | variant :: rest => variant.inlined :: inlinedVariants rest

end

def inlinedField (field : Field Node) : Field Node := { field with node := field.node.inlined }

variable {fields : List (Field Node)} {variants : List Node}

theorem inlinedFields_eq_map (fields : List (Field Node)) :
    inlinedFields fields = fields.map inlinedField := by
  induction fields with
  | nil => rfl
  | cons field rest inRest => simp only [inlinedFields, List.map_cons, inRest, inlinedField]

theorem inlinedVariants_eq_map (variants : List Node) :
    inlinedVariants variants = variants.map inlined := by
  induction variants with
  | nil => rfl
  | cons variant rest inRest => simp only [inlinedVariants, List.map_cons, inRest]

theorem inlined_map (allowEmpty : Bool) :
    (map fields allowEmpty).inlined = .map (fields.map inlinedField) allowEmpty := by
  rw [inlined, inlinedFields_eq_map]

theorem inlined_seq (matching : Matching) :
    (seq variants matching).inlined = .seq (variants.map inlined) matching := by
  rw [inlined, inlinedVariants_eq_map]

theorem not_includes_inlined (node : Node) {name : String} {target : Node} :
    ¬ node.inlined.Includes name target := by
  induction node using Node.induction with
  | map fields allowEmpty ofField =>
      rw [inlined_map]
      intro includes
      cases includes with
      | field member below =>
          obtain ⟨field, isField, rfl⟩ := List.mem_map.mp member
          exact ofField field isField below
  | seq variants matching ofVariant =>
      rw [inlined_seq]
      intro includes
      cases includes with
      | variant member below =>
          obtain ⟨variant, isVariant, rfl⟩ := List.mem_map.mp member
          exact ofVariant variant isVariant below
  | scalar leaf =>
      intro includes
      cases includes
  | included name inner ofInner => exact ofInner

theorem shape_inlined (node : Node) : node.inlined.shape = node.shape := by
  induction node using Node.induction with
  | map fields allowEmpty _ => rfl
  | seq variants matching _ => rfl
  | scalar leaf => rfl
  | included name target ofTarget => exact ofTarget

theorem keysText_inlined (fields : List (Field Node)) :
    keysText (fields.map inlinedField) = keysText fields := by
  unfold keysText
  rw [List.isEmpty_map, List.map_map]
  rfl

theorem variantsText_inlined (variants : List Node) (matching : Matching) :
    variantsText (variants.map inlined) matching = variantsText variants matching := by
  have shapes : (variants.map inlined).map shape = variants.map shape := by
    rw [List.map_map]
    exact List.map_congr_left fun variant _ => shape_inlined variant
  cases matching with
  | any => simp only [variantsText, shapes]
  | all => simp only [variantsText, shapes]

end Node

namespace Validation

open Node

variable {config : Config} {path : DocPath} {fields : List (Field Node)} {entries : Entries}

theorem claims_inlined (key : Value) :
    claims (fields.map inlinedField) key = claims fields key := by
  have literals (name : String) :
      hasLiteral (fields.map inlinedField) name = hasLiteral fields name := by
    unfold hasLiteral
    rw [List.any_map]
    rfl
  unfold claims
  cases key.content with
  | string name => exact literals name
  | _ => rfl

theorem applicable_inlined (policy : PatternMatch) (text : String) (fields : List (Field Node)) :
    applicable policy text (fields.map inlinedField) =
      (applicable policy text fields).map inlinedField := by
  have same : selects text ∘ inlinedField = selects text := rfl
  cases policy with
  | first =>
      simp only [applicable, List.find?_map, same]
      cases fields.find? (selects text) with
      | none => rfl
      | some field => rfl
  | all => simp only [applicable, List.filter_map, same]

/-- What a tree reports about a value is what the tree without its includes reports. -/
def Transparent (config : Config) (node : Node) : Prop :=
  ∀ path value, check config path node.inlined value = check config path node value

theorem literalViolations_inlined {field : Field Node}
    (transparent : Transparent config field.node) :
    literalViolations config path entries (inlinedField field) =
      literalViolations config path entries field := by
  simp only [literalViolations, inlinedField, shape_inlined, transparent _ _]

theorem unclaimedViolations_inlined (allowEmpty : Bool) (text : String)
    (outcomes : List (List Violation)) :
    unclaimedViolations path (fields.map inlinedField) allowEmpty text outcomes =
      unclaimedViolations path fields allowEmpty text outcomes := by
  unfold unclaimedViolations
  rw [keysText_inlined]

theorem patternViolations_inlined {allowEmpty : Bool} {entry : Value × Value}
    (transparent : ∀ field ∈ fields, Transparent config field.node) :
    patternViolations config path (fields.map inlinedField) allowEmpty entry =
      patternViolations config path fields allowEmpty entry := by
  unfold patternViolations
  rw [unclaimedViolations_inlined, applicable_inlined, List.map_map]
  refine congrArg _ (List.map_congr_left fun field applies => ?_)
  exact transparent field (mem_of_mem_applicable applies) _ _

theorem map_transparent {allowEmpty : Bool}
    (ofField : ∀ field ∈ fields, Transparent config field.node) :
    Transparent config (.map fields allowEmpty) := by
  intro path value
  rw [inlined_map]
  by_cases mapping : ∃ entries : Entries, value.content = .map entries
  · obtain ⟨entries, mapping⟩ := mapping
    have literal (field : Field Node) (member : field ∈ fields) :
        literalViolations config path entries (inlinedField field) =
          literalViolations config path entries field :=
      literalViolations_inlined (ofField field member)
    rw [check_map mapping, check_map mapping, List.flatMap_map, List.flatMap_congr literal]
    refine congrArg _ (List.flatMap_congr fun entry _ => ?_)
    rw [claims_inlined, patternViolations_inlined ofField]
  · rw [check_map_of_not_map (not_exists.mp mapping), check_map_of_not_map (not_exists.mp mapping)]

theorem seq_transparent {variants : List Node} {matching : Matching}
    (ofVariant : ∀ variant ∈ variants, Transparent config variant) :
    Transparent config (.seq variants matching) := by
  intro path value
  rw [inlined_seq]
  by_cases sequence : ∃ items, value.content = .seq items
  · obtain ⟨items, sequence⟩ := sequence
    -- An include counts as one shape, so a list of several shapes stays one of several.
    by_cases single : variants.length = 1
    · obtain ⟨only, rfl⟩ := List.length_eq_one_iff.mp single
      rw [List.map_singleton, check_seq_one sequence, check_seq_one sequence]
      exact List.flatMap_congr fun element _ => ofVariant only (by simp) _ element.1
    · have several : (variants.map inlined).length ≠ 1 := by rwa [List.length_map]
      rw [check_seq_several several sequence, check_seq_several single sequence]
      refine List.flatMap_congr fun element _ => ?_
      unfold elementViolations
      rw [variantsText_inlined, List.map_map]
      let outcome := fun variant => check config (path ++ [.index element.2]) variant element.1
      have outcomes : variants.map (outcome ∘ inlined) = variants.map outcome :=
        List.map_congr_left fun variant member => ofVariant variant member _ element.1
      rw [outcomes]
  · have scalar := not_exists.mp sequence
    rw [check_seq_of_not_seq scalar, check_seq_of_not_seq scalar]

theorem check_transparent (node : Node) : Transparent config node := by
  induction node using Node.induction with
  | map fields allowEmpty ofField => exact map_transparent ofField
  | seq variants matching ofVariant => exact seq_transparent ofVariant
  | scalar leaf =>
      intro path value
      rw [inlined]
  | included name target ofTarget =>
      intro path value
      rw [inlined, check_included]
      exact ofTarget path value

end Validation

/-- Under every configuration a schema reports the same as the schema in which each include is
replaced by what it stands for, and in that one no include is left. -/
theorem Schema.validate_inlined (schema : Schema) (document : Value) :
    (∀ name target, ¬ schema.root.inlined.Includes name target) ∧
      { schema with root := schema.root.inlined }.validate document = schema.validate document :=
  ⟨fun _ _ => Node.not_includes_inlined schema.root,
    Validation.check_transparent schema.root [] document⟩

end DocShape
