import DocShape.Proofs.Tree

namespace DocShape

/-! A test by which two trees are found to be the same.

It compares all parts of a tree but the values that a leaf allows, so leaves with such a
list are never found alike.
-/

deriving instance DecidableEq for Pattern.CharSet
deriving instance DecidableEq for Pattern.Assertion
deriving instance DecidableEq for Pattern.Expression
deriving instance DecidableEq for Pattern
deriving instance DecidableEq for FieldKey
deriving instance DecidableEq for Range

namespace Scalar

def alike (left right : Scalar) : Bool :=
  left.kind = right.kind && left.range = right.range && left.allowEmpty = right.allowEmpty &&
    left.pattern = right.pattern && left.allowed.isEmpty && right.allowed.isEmpty

theorem eq_of_alike {left right : Scalar} (alike : left.alike right = true) : left = right := by
  obtain ⟨kind, range, allowEmpty, allowed, pattern⟩ := left
  obtain ⟨_, _, _, others, _⟩ := right
  simp only [Scalar.alike, Bool.and_eq_true, decide_eq_true_eq, List.isEmpty_iff] at alike
  obtain ⟨⟨⟨⟨⟨rfl, rfl⟩, rfl⟩, rfl⟩, rfl⟩, rfl⟩ := alike
  rfl

end Scalar

namespace Node

mutual

def alike : Node → Node → Bool
  | .map fields allowEmpty, .map others tolerates =>
      alikeFields fields others && allowEmpty == tolerates
  | .seq variants matching, .seq others rule => alikeVariants variants others && matching = rule
  | .scalar left, .scalar right => left.alike right
  | .included name target, .included other inner => name == other && alike target inner
  | _, _ => false

def alikeFields : List (Field Node) → List (Field Node) → Bool
  | [], [] => true
  | ⟨key, required, node⟩ :: rest, other :: others =>
      key = other.key && required == other.required && alike node other.node &&
        alikeFields rest others
  | _, _ => false

def alikeVariants : List Node → List Node → Bool
  | [], [] => true
  | variant :: rest, other :: others => alike variant other && alikeVariants rest others
  | _, _ => false

end

theorem eq_of_alikeFields {fields others : List (Field Node)}
    (below : ∀ field ∈ fields, ∀ other, alike field.node other = true → field.node = other)
    (alike : alikeFields fields others = true) : fields = others := by
  induction fields generalizing others with
  | nil =>
      cases others with
      | nil => rfl
      | cons other rest => simp [alikeFields] at alike
  | cons field rest inRest =>
      obtain ⟨ofField, ofRest⟩ := List.forall_mem_cons.mp below
      cases others with
      | nil => simp [alikeFields] at alike
      | cons other others =>
          obtain ⟨key, required, node⟩ := field
          obtain ⟨_, _, _⟩ := other
          simp only [alikeFields, Bool.and_eq_true, decide_eq_true_eq, beq_iff_eq] at alike
          obtain ⟨⟨⟨rfl, rfl⟩, nodes⟩, remaining⟩ := alike
          cases ofField _ nodes
          rw [inRest ofRest remaining]

theorem eq_of_alikeVariants {variants others : List Node}
    (below : ∀ variant ∈ variants, ∀ other, alike variant other = true → variant = other)
    (alike : alikeVariants variants others = true) : variants = others := by
  induction variants generalizing others with
  | nil =>
      cases others with
      | nil => rfl
      | cons other rest => simp [alikeVariants] at alike
  | cons variant rest inRest =>
      obtain ⟨ofVariant, ofRest⟩ := List.forall_mem_cons.mp below
      cases others with
      | nil => simp [alikeVariants] at alike
      | cons other others =>
          simp only [alikeVariants, Bool.and_eq_true] at alike
          rw [ofVariant other alike.1, inRest ofRest alike.2]

theorem eq_of_alike {left right : Node} (same : left.alike right = true) : left = right := by
  induction left using Node.induction generalizing right with
  | map fields allowEmpty ofField =>
      cases right with
      | map others tolerates =>
          simp only [alike, Bool.and_eq_true, beq_iff_eq] at same
          obtain ⟨fieldsAlike, rfl⟩ := same
          rw [eq_of_alikeFields (fun field member _ => ofField field member) fieldsAlike]
      | _ => simp [alike] at same
  | seq variants matching ofVariant =>
      cases right with
      | seq others rule =>
          simp only [alike, Bool.and_eq_true, decide_eq_true_eq] at same
          obtain ⟨variantsAlike, rfl⟩ := same
          rw [eq_of_alikeVariants (fun variant member _ => ofVariant variant member) variantsAlike]
      | _ => simp [alike] at same
  | scalar leaf =>
      cases right with
      | scalar other =>
          simp only [alike] at same
          rw [Scalar.eq_of_alike same]
      | _ => simp [alike] at same
  | included name target ofTarget =>
      cases right with
      | included other inner =>
          simp only [alike, Bool.and_eq_true, beq_iff_eq] at same
          obtain ⟨rfl, targets⟩ := same
          rw [ofTarget targets]
      | _ => simp [alike] at same

end Node
end DocShape
