import DocShape.Proofs.Causes
import DocShape.Proofs.Path
import DocShape.Proofs.Text.Lines

namespace DocShape

/-! The lines of a violation's text.

There is a line for the violation and one for each of its causes, at any depth and in order, if
no text in them breaks it.  All causes are set off alike, so that the text does not tell a cause
of a cause from a cause beside it.
-/

namespace Violation

/-- The first line of a violation's text. -/
def title (violation : Violation) : String :=
  headline violation.path violation.kind violation.expected violation.actual

/-- The line of a cause. -/
def entry (cause : Violation) : String := "  - " ++ cause.title

variable {violation left right : Violation}

theorem toList_text (violation : Violation) :
    violation.text.toList =
      violation.title.toList ++ violation.nested.flatMap fun cause => '\n' :: cause.entry.toList := by
  induction violation using Violation.induction with
  | mk path kind expected actual causes ofCause =>
      have ofCauses : (causesText causes).toList =
          (nestedAll causes).flatMap fun cause => '\n' :: cause.entry.toList := by
        induction causes with
        | nil => rfl
        | cons cause rest inRest =>
            obtain ⟨first, ofRest⟩ := List.forall_mem_cons.mp ofCause
            simp [causesText, nestedAll, first, inRest ofRest, entry]
      simp only [text, String.toList_append, ofCauses]
      rfl

theorem oneLine_title_iff :
    Text.OneLine violation.title ↔
      Text.OneLine violation.path.text ∧ Text.OneLine violation.expected ∧
        Text.OneLine violation.actual := by
  have phrase : Text.OneLine violation.kind.phrase := by
    cases violation.kind <;> decide
  have words : Text.OneLine ": " ∧ Text.OneLine ": expected " ∧ Text.OneLine ", found " := by
    decide
  simp [title, headline, phrase, words, and_assoc]

/-- Every part has its line, and each break in its own text makes one more. -/
theorem length_lines_text (violation : Violation) :
    (Text.lines violation.text).length =
      violation.parts.length +
        (violation.parts.flatMap fun part => part.title.toList).count '\n' := by
  have ofEntry (cause : Violation) :
      List.count '\n' ('\n' :: cause.entry.toList) = cause.title.toList.count '\n' + 1 := by
    simp [entry]
  have ofNested (causes : List Violation) :
      (causes.flatMap fun cause => '\n' :: cause.entry.toList).count '\n' =
        (causes.flatMap fun cause => cause.title.toList).count '\n' + causes.length := by
    induction causes with
    | nil => rfl
    | cons cause rest inRest =>
        rw [List.flatMap_cons, List.count_append, ofEntry, inRest, List.flatMap_cons,
          List.count_append, List.length_cons]
        omega
  rw [Text.length_lines, toList_text, List.count_append, ofNested, parts, List.flatMap_cons,
    List.count_append, List.length_cons]
  omega

/-- There is a line for each part exactly when no part's own text breaks its line. -/
theorem length_lines_text_eq_iff :
    (Text.lines violation.text).length = violation.parts.length ↔
      ∀ part ∈ violation.parts, Text.OneLine part.title := by
  rw [length_lines_text, Nat.add_eq_left, List.count_eq_zero, List.mem_flatMap]
  simp only [not_exists, not_and, Text.OneLine]

/-- No text in the violation or in its causes breaks a line. -/
def OneLine (violation : Violation) : Prop :=
  ∀ part ∈ violation.parts,
    Text.OneLine part.path.text ∧ Text.OneLine part.expected ∧ Text.OneLine part.actual

theorem OneLine.title (oneLine : violation.OneLine) {part : Violation}
    (member : part ∈ violation.parts) : Text.OneLine part.title :=
  oneLine_title_iff.mpr (oneLine part member)

theorem OneLine.lines_text (oneLine : violation.OneLine) :
    Text.lines violation.text = violation.title :: violation.nested.map entry := by
  refine Text.lines_of_toList ?_ ?_
  · refine List.forall_mem_cons.mpr ⟨oneLine.title List.mem_cons_self, ?_⟩
    refine List.forall_mem_map.mpr fun cause member => ?_
    rw [entry, Text.oneLine_append_iff]
    exact ⟨by decide, oneLine.title (List.mem_cons_of_mem _ member)⟩
  · rw [toList_text, List.flatMap_map]

/-- Without breaks in their texts, two violations have the same text exactly when they and their
causes have the same titles in the same order, however the causes are nested. -/
theorem OneLine.texts_same_iff (ofLeft : left.OneLine) (ofRight : right.OneLine) :
    left.text = right.text ↔ left.parts.map Violation.title = right.parts.map Violation.title := by
  have entries (causes : List Violation) :
      causes.map entry = (causes.map Violation.title).map ("  - " ++ ·) := by
    rw [List.map_map]
    rfl
  simp only [parts, List.map_cons, List.cons.injEq]
  constructor
  · intro same
    have sameLines := congrArg Text.lines same
    rw [ofLeft.lines_text, ofRight.lines_text, entries, entries, List.cons.injEq] at sameLines
    refine ⟨sameLines.1, List.map_injective_iff.mpr (fun first second alike => ?_) sameLines.2⟩
    exact String.append_right_inj "  - " |>.mp alike
  · intro ⟨sameTitle, sameCauses⟩
    have written (violation : Violation) : violation.text.toList =
        violation.title.toList ++
          (violation.nested.map Violation.title).flatMap fun title =>
            '\n' :: ("  - " ++ title).toList := by
      rw [toList_text, List.flatMap_map]
      rfl
    rw [← String.toList_inj, written, written, sameTitle, sameCauses]

/-- The text of a place does not begin with a blank. -/
theorem indentation_title (violation : Violation) : Text.indentation violation.title = 0 := by
  obtain ⟨character, rest, begins, notBlank⟩ := violation.path.text_begins
  simp [title, headline, Text.indentation, begins, notBlank]

theorem indentation_entry (cause : Violation) : Text.indentation cause.entry = 2 := by
  simp [entry, Text.indentation]

/-- Without breaks in its texts, a violation has its title on the first line and each cause on a
line of its own behind it, in front of the causes of that cause.  The lines of causes are set off
from the first, but all alike, so that another violation has the same text exactly when its parts
have the same titles in the same order. -/
theorem text_outlined (oneLine : violation.OneLine) :
    Text.lines violation.text = violation.title :: violation.nested.map entry ∧
      Text.indentation violation.title = 0 ∧
      (∀ cause ∈ violation.nested, Text.indentation cause.entry = 2) ∧
      ∀ other : Violation, other.OneLine →
        (violation.text = other.text ↔
          violation.parts.map Violation.title = other.parts.map Violation.title) :=
  ⟨oneLine.lines_text, violation.indentation_title, fun cause _ => cause.indentation_entry,
    fun _ ofOther => oneLine.texts_same_iff ofOther⟩

/-- An element of an element that fails both of its shapes. -/
def chained : Violation :=
  .mk [.index 0] .elementMismatch "any of seq | int" "seq of 1 items"
    [.mk [.index 0, .index 0] .elementMismatch "any of int | bool" "null"
      [.mk [.index 0, .index 0] .typeMismatch "int" "null" []]]

/-- The same violations, with the causes side by side. -/
def sideBySide : Violation :=
  .mk [.index 0] .elementMismatch "any of seq | int" "seq of 1 items"
    [.mk [.index 0, .index 0] .elementMismatch "any of int | bool" "null" [],
      .mk [.index 0, .index 0] .typeMismatch "int" "null" []]

theorem text_outlined_chained :
    chained.OneLine ∧
      Text.lines chained.text =
        ["[0]: no matching element shape: expected any of seq | int, found seq of 1 items",
          "  - [0][0]: no matching element shape: expected any of int | bool, found null",
          "  - [0][0]: type mismatch: expected int, found null"] := by
  have oneLine : chained.OneLine := by
    unfold OneLine
    decide +kernel
  refine ⟨oneLine, (text_outlined oneLine).1.trans ?_⟩
  decide +kernel

/-- The cause of a cause is set off like that cause, and the text is that of another nesting. -/
theorem text_forgets_nesting :
    (chained.OneLine ∧ ∃ cause ∈ chained.nested, ∃ inner ∈ cause.causes,
      Text.indentation inner.entry = Text.indentation cause.entry) ∧
      sideBySide.OneLine ∧ chained.parts.map bare = sideBySide.parts.map bare ∧
      chained ≠ sideBySide ∧ chained.text = sideBySide.text := by
  have oneLine : chained.OneLine ∧ sideBySide.OneLine := by
    unfold OneLine
    decide +kernel
  refine ⟨⟨oneLine.1, _, List.mem_cons_self, _, List.mem_cons_self, ?_⟩, oneLine.2, rfl, ?_, ?_⟩
  · rw [indentation_entry, indentation_entry]
  · simp [chained, sideBySide]
  · decide +kernel

end Violation
end DocShape
