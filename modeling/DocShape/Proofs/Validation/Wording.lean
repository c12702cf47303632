import DocShape.Proofs.Validation.Reported
import DocShape.Proofs.Causes
import DocShape.Proofs.Text.Lines

namespace DocShape

/-! What violations tell in one line.

What is told of a value keeps to one line whatever the value is, and what is told of a schema does
if its names and patterns do.  Only the name of an unexpected key is told as it stands.
-/

namespace NumberStyle

variable {style : NumberStyle}

theorem oneLine_ofList_toDigits_sublist {characters : List Char} {number : Nat}
    (part : characters.Sublist (Nat.toDigits 10 number)) :
    Text.OneLine (String.ofList characters) := by
  rw [Text.OneLine, String.toList_ofList]
  exact fun isBreak => Text.oneLine_toDigits (by decide) (by decide) number (part.subset isBreak)

theorem oneLine_zeros (count : Nat) : Text.OneLine (zeros count) := by
  simp [Text.OneLine, zeros]

theorem oneLine_positional (ofEnd : Text.OneLine style.wholeEnd) (decimal : Decimal) :
    Text.OneLine (style.positional decimal) := by
  unfold positional
  simp only
  split
  · simp only [Text.oneLine_append_iff]
    exact ⟨⟨oneLine_ofList_toDigits_sublist (List.Sublist.refl _), oneLine_zeros _⟩, ofEnd⟩
  · split
    · simp only [Text.oneLine_append_iff]
      exact ⟨⟨oneLine_ofList_toDigits_sublist (List.take_sublist _ _), by decide⟩,
        oneLine_ofList_toDigits_sublist (List.drop_sublist _ _)⟩
    · simp only [Text.oneLine_append_iff]
      exact ⟨⟨by decide, oneLine_zeros _⟩, oneLine_ofList_toDigits_sublist (List.Sublist.refl _)⟩

theorem oneLine_withExponent (leading : Int) (decimal : Decimal) :
    Text.OneLine (withExponent leading decimal) := by
  unfold withExponent
  simp only [Text.oneLine_append_iff]
  refine ⟨⟨⟨oneLine_ofList_toDigits_sublist (List.take_sublist _ _), ?_⟩, by decide⟩,
    Text.oneLine_int leading⟩
  split
  · decide
  · rw [Text.oneLine_append_iff]
    exact ⟨by decide, oneLine_ofList_toDigits_sublist (List.drop_sublist _ _)⟩

/-- A number keeps to one line where the words of its style do. -/
theorem oneLine_text (ofEnd : Text.OneLine style.wholeEnd) (ofNan : Text.OneLine style.nan)
    (ofInfinity : Text.OneLine style.infinity) (number : Binary64) :
    Text.OneLine (style.text number) := by
  have sign (negative : Bool) : Text.OneLine (if negative then "-" else "") := by
    cases negative <;> decide
  cases number with
  | nan => exact ofNan
  | infinite negative => exact Text.oneLine_append_iff.mpr ⟨sign negative, ofInfinity⟩
  | finite negative units =>
      refine Text.oneLine_append_iff.mpr ⟨sign negative, ?_⟩
      unfold magnitude
      split
      · exact Text.oneLine_append_iff.mpr ⟨by decide, ofEnd⟩
      · simp only
        split
        · exact oneLine_withExponent _ _
        · exact oneLine_positional ofEnd _

end NumberStyle

namespace Value

theorem oneLine_floatText (number : Binary64) : Text.OneLine (floatText number) :=
  NumberStyle.oneLine_text (by decide) (by decide) (by decide) number

theorem oneLine_boolText (flag : Bool) : Text.OneLine (boolText flag) := by
  cases flag <;> decide

theorem oneLine_summary (value : Value) : Text.OneLine value.summary := by
  unfold summary
  split
  · decide
  · exact Text.oneLine_append_iff.mpr ⟨by decide, oneLine_boolText _⟩
  · exact Text.oneLine_append_iff.mpr ⟨by decide, Text.oneLine_int _⟩
  · exact Text.oneLine_append_iff.mpr ⟨by decide, oneLine_floatText _⟩
  · exact Text.oneLine_append_iff.mpr ⟨by decide, Text.oneLine_quoted _⟩
  · simp only [Text.oneLine_append_iff]
    exact ⟨⟨by decide, Text.oneLine_nat _⟩, by decide⟩
  · simp only [Text.oneLine_append_iff]
    exact ⟨⟨by decide, Text.oneLine_nat _⟩, by decide⟩
  · decide

/-- Only a key that is a string can have a text of several lines, which is that string. -/
theorem oneLine_keyText_or (key : Value) :
    Text.OneLine key.keyText ∨ key.content = .string key.keyText := by
  unfold keyText
  cases content : key.content with
  | string text => exact .inr rfl
  | int number => exact .inl (Text.oneLine_int number)
  | float number => exact .inl (oneLine_floatText number)
  | bool flag => exact .inl (oneLine_boolText flag)
  | null => exact .inl (by decide)
  | seq items => exact .inl (oneLine_summary _)
  | map entries => exact .inl (oneLine_summary _)
  | tagged tag inner => exact .inl (oneLine_summary _)

end Value

theorem Range.oneLine_text (range : Range) : Text.OneLine range.text := by
  have ofValue (value : Binary64) : Text.OneLine (Bound.valueText value) :=
    NumberStyle.oneLine_text (by decide) (by decide) (by decide) value
  have ofBound (bound : Bound) {strict loose : String} (ofStrict : Text.OneLine strict)
      (ofLoose : Text.OneLine loose) :
      Text.OneLine ((if bound.exclusive then strict else loose) ++ Bound.valueText bound.value) := by
    refine Text.oneLine_append_iff.mpr ⟨?_, ofValue _⟩
    split
    · exact ofStrict
    · exact ofLoose
  refine Text.oneLine_intercalate (by decide) fun text member => ?_
  rcases List.mem_append.mp member with ofLow | ofHigh
  · obtain ⟨bound, _, rfl⟩ := List.mem_map.mp ofLow
    exact ofBound bound (by decide) (by decide)
  · obtain ⟨bound, _, rfl⟩ := List.mem_map.mp ofHigh
    exact ofBound bound (by decide) (by decide)

theorem FieldKey.oneLine_of_literal? {name : String} (key : FieldKey)
    (literal : key.literal? = some name) (oneLine : Text.OneLine key.text) :
    Text.OneLine name := by
  cases key with
  | literal other =>
      obtain rfl := Option.some.inj literal
      simp only [text, Text.oneLine_append_iff] at oneLine
      exact oneLine.1.2
  | pattern found => cases literal

theorem Kind.oneLine_name (kind : Kind) : Text.OneLine kind.name := by
  cases kind <;> decide

namespace Node

theorem oneLine_shape (node : Node) : Text.OneLine node.shape := by
  induction node using Node.induction with
  | map | seq => simp only [shape]; decide
  | scalar leaf => exact leaf.kind.oneLine_name
  | included name target ofTarget => exact ofTarget

theorem oneLine_variantsText (variants : List Node) (matching : Matching) :
    Text.OneLine (variantsText variants matching) := by
  have ofShapes (separator : String) (ofSeparator : Text.OneLine separator) :
      Text.OneLine (separator.intercalate (variants.map shape)) :=
    Text.oneLine_intercalate ofSeparator
      (List.forall_mem_map.mpr fun variant _ => variant.oneLine_shape)
  cases matching with
  | any => exact Text.oneLine_append_iff.mpr ⟨by decide, ofShapes _ (by decide)⟩
  | all => exact Text.oneLine_append_iff.mpr ⟨by decide, ofShapes _ (by decide)⟩

theorem oneLine_keysText {fields : List (Field Node)}
    (keys : ∀ field ∈ fields, Text.OneLine field.key.text) : Text.OneLine (keysText fields) := by
  unfold keysText
  split
  · decide
  · refine Text.oneLine_append_iff.mpr ⟨by decide, ?_⟩
    exact Text.oneLine_intercalate (by decide) (List.forall_mem_map.mpr keys)

/-- The names of fields and the patterns in the tree, also below includes, keep to one line. -/
inductive OneLine : Node → Prop where
  | map {fields : List (Field Node)} {allowEmpty : Bool}
      (keys : ∀ field ∈ fields, Text.OneLine field.key.text)
      (below : ∀ field ∈ fields, OneLine field.node) : OneLine (.map fields allowEmpty)
  | seq {variants : List Node} {matching : Matching}
      (below : ∀ variant ∈ variants, OneLine variant) : OneLine (.seq variants matching)
  | scalar {leaf : Scalar} (pattern : ∀ pattern ∈ leaf.pattern, Text.OneLine pattern.text) :
      OneLine (.scalar leaf)
  | included {name : String} {target : Node} (below : OneLine target) :
      OneLine (.included name target)

end Node

/-- What a violation tells keeps to one line, but for its path and the name of an unexpected
key. -/
structure Violation.Worded (violation : Violation) : Prop where
  expected : Text.OneLine violation.expected
  actual : violation.kind ≠ .unexpectedField → Text.OneLine violation.actual
  missing : violation.kind = .missingField → ∀ name,
    violation.path.getLast? = some (.key name) → Text.OneLine name

namespace Violation

variable {path : DocPath} {kind : ViolationKind} {expected actual : String}
  {causes : List Violation}

theorem parts_worded (worded : (Violation.mk path kind expected actual causes).Worded)
    (ofCauses : ∀ cause ∈ causes, ∀ part ∈ cause.parts, part.Worded) :
    ∀ part ∈ (Violation.mk path kind expected actual causes).parts, part.Worded := by
  rw [parts_mk, List.forall_mem_cons]
  refine ⟨worded, fun part member => ?_⟩
  obtain ⟨cause, inCauses, inCause⟩ := List.mem_flatMap.mp member
  exact ofCauses cause inCauses part inCause

theorem Worded.ofPresent (present : kind ≠ .missingField) (ofExpected : Text.OneLine expected)
    (ofActual : Text.OneLine actual) : (Violation.mk path kind expected actual causes).Worded :=
  ⟨ofExpected, fun _ => ofActual, fun missing => absurd missing present⟩

end Violation

namespace Validation

variable {path : DocPath} {value : Value} {violation : Violation}

theorem mismatch_worded {expected : String} (ofExpected : Text.OneLine expected) (value : Value) :
    (mismatch path expected value).Worded :=
  Violation.Worded.ofPresent (by simp) ofExpected value.oneLine_summary

theorem oneLine_of_measure? {measured : Binary64} {label : String}
    (measure : measure? value = some (measured, label)) : Text.OneLine label := by
  have words : label = "" ∨ label = "length " := by
    cases value <;> simp_all [measure?]
  rcases words with rfl | rfl <;> decide

theorem LeafFault.parts_eq {leaf : Scalar} (fault : LeafFault path leaf value violation) :
    violation.parts = [violation] := by
  cases fault <;> rfl

theorem LeafFault.worded {leaf : Scalar} (fault : LeafFault path leaf value violation)
    (ofPattern : ∀ pattern ∈ leaf.pattern, Text.OneLine pattern.text) : violation.Worded := by
  have found : Text.OneLine value.summary := value.oneLine_summary
  cases fault with
  | kind => exact mismatch_worded leaf.kind.oneLine_name value
  | empty => exact .ofPresent (by simp) (by decide) (by decide)
  | @pattern text pattern declared =>
      have expected : Text.OneLine ("str matching " ++ pattern.text) :=
        Text.oneLine_append_iff.mpr ⟨by decide, ofPattern pattern declared⟩
      exact .ofPresent (by simp) expected found
  | allowed =>
      have choices : Text.OneLine (", ".intercalate (leaf.allowed.map Value.summary)) :=
        Text.oneLine_intercalate (by decide)
          (List.forall_mem_map.mpr fun choice _ => choice.oneLine_summary)
      have expected := Text.oneLine_append_iff.mpr ⟨(by decide : Text.OneLine "one of "), choices⟩
      exact .ofPresent (by simp) expected found
  | @range _ range _ _ _ measure =>
      have expected :=
        Text.oneLine_append_iff.mpr ⟨oneLine_of_measure? measure, range.oneLine_text⟩
      exact .ofPresent (by simp) expected found

/-- What a node of a schema in one line comes to report is worded so, with all its causes. -/
theorem Reported.worded {node : Node} (reported : Reported node path value violation)
    (oneLine : node.OneLine) : ∀ part ∈ violation.parts, part.Worded := by
  induction reported with
  | notMap => exact Violation.parts_worded (mismatch_worded (by decide) _) nofun
  | @missing _ _ _ _ _ field name _ member literal _ _ =>
      cases oneLine with
      | map keys =>
          have ofName : Text.OneLine name := field.key.oneLine_of_literal? literal (keys _ member)
          refine Violation.parts_worded ⟨field.node.oneLine_shape, fun _ => ?_, fun _ => ?_⟩ nofun
          · exact (by decide : Text.OneLine "nothing")
          · simpa [Violation.path] using ofName
  | literal _ member _ _ _ ofBelow =>
      cases oneLine with
      | map _ below => exact ofBelow (below _ member)
  | unexpected =>
      cases oneLine with
      | map keys =>
          have ofExpected := Node.oneLine_keysText keys
          exact Violation.parts_worded ⟨ofExpected, fun known => absurd rfl known, nofun⟩ nofun
  | pattern _ _ _ member _ ofBelow =>
      cases oneLine with
      | map _ below => exact ofBelow (below _ member)
  | notSeq => exact Violation.parts_worded (mismatch_worded (by decide) _) nofun
  | only _ _ _ ofBelow =>
      cases oneLine with
      | seq below => exact ofBelow (below _ List.mem_cons_self)
  | @element variants matching _ _ item _ _ _ _ _ _ _ members _ ofCause =>
      cases oneLine with
      | seq below =>
          have expected := Node.oneLine_variantsText variants matching
          refine Violation.parts_worded (.ofPresent (by simp) expected item.oneLine_summary) ?_
          exact fun cause inCauses => ofCause cause inCauses (below _ (members cause inCauses))
  | leaf fault =>
      cases oneLine with
      | scalar ofPattern =>
          rw [fault.parts_eq, List.forall_mem_singleton]
          exact fault.worded ofPattern
  | included _ ofBelow =>
      cases oneLine with
      | included below => exact ofBelow below

end Validation
end DocShape
