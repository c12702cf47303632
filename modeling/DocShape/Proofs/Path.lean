import DocShape.Path
import DocShape.Proofs.Text.Quoted

namespace DocShape

/-! Texts of paths, and when two paths have the same one.

Every step but the first begins with a mark, and no key that is written bare holds one, so the
steps of a path can be told apart in its text.  Only the text of the empty path is not set
apart from keys.
-/

namespace Segment

/-- The marks with which a step after the first begins. -/
def marks : List Char := ['.', '[']

section Text

variable {left right : Segment} {first second : String} {rest remaining : List Char}

theorem text_goesOn (segment : Segment) (rest : List Char) :
    Text.GoesOn marks ((segment.text false).toList ++ rest) := by
  cases segment with
  | key name =>
      simp only [text, Bool.false_eq_true, if_false, String.toList_append, List.append_assoc]
      exact Text.goesOn_cons (by decide) _
  | index position =>
      simp only [text, String.toList_append, List.append_assoc]
      exact Text.goesOn_cons (by decide) _

/-- A key that is written bare is there, and holds no mark. -/
theorem bare_of_not_needsQuotes (bare : needsQuotes first = false) :
    first.toList ≠ [] ∧ ∀ character ∈ first.toList, character ∉ ['.', '[', ']', '"', ' '] := by
  simp only [needsQuotes, Bool.or_eq_false_iff, List.any_eq_false] at bare
  refine ⟨fun empty => ?_, fun character member => ?_⟩
  · rw [String.toList_eq_nil_iff] at empty
    simp [empty] at bare
  · simpa using bare.2 character member

/-- A key's text begins with a quotation mark or a character without a meaning in paths. -/
theorem keyText_begins (name : String) :
    ∃ character rest, (keyText name).toList = character :: rest ∧
      character ∉ ['.', '[', ']', ' '] := by
  unfold keyText
  split
  · exact ⟨'"', _, Text.toList_quoted name, by decide⟩
  · rename_i bare
    obtain ⟨present, unmarked⟩ := bare_of_not_needsQuotes (Bool.eq_false_iff.mpr bare)
    obtain ⟨character, later, split⟩ := List.exists_cons_of_ne_nil present
    refine ⟨character, later, split, fun isMark => ?_⟩
    have meaningful : ['.', '[', ']', ' '] ⊆ ['.', '[', ']', '"', ' '] := by decide
    exact unmarked character (split ▸ List.mem_cons_self) (meaningful isMark)

theorem keyText_ne_index : (keyText first).toList ++ rest ≠ '[' :: remaining := by
  obtain ⟨character, later, begins, unmarked⟩ := keyText_begins first
  rw [begins]
  intro same
  have isMark : character = '[' := (List.cons.inj same).1
  exact unmarked (by simp [isMark])

/-- No bare key begins like a quoted one. -/
theorem bare_ne_quoted (bare : needsQuotes first = false) :
    first.toList ++ rest ≠ (Text.quoted second).toList ++ remaining := by
  obtain ⟨present, unmarked⟩ := bare_of_not_needsQuotes bare
  obtain ⟨character, later, split⟩ := List.exists_cons_of_ne_nil present
  intro same
  rw [split] at same unmarked
  rw [Text.toList_quoted] at same
  have isMark : character = '"' := (List.cons.inj same).1
  exact absurd (unmarked character List.mem_cons_self) (by simp [isMark])

/-- A key ends where its quotation does, or at the next step. -/
theorem keyText_append_inj (goesOn : Text.GoesOn marks rest)
    (otherGoesOn : Text.GoesOn marks remaining)
    (same : (keyText first).toList ++ rest = (keyText second).toList ++ remaining) :
    first = second ∧ rest = remaining := by
  have unmarked {name : String} (bare : needsQuotes name = false) :
      ∀ character ∈ name.toList, character ∉ marks := by
    intro character member isMark
    have meaningful : marks ⊆ ['.', '[', ']', '"', ' '] := by decide
    exact (bare_of_not_needsQuotes bare).2 character member (meaningful isMark)
  unfold keyText at same
  cases firstQuoted : needsQuotes first with
  | true =>
      cases secondQuoted : needsQuotes second with
      | true =>
          simp only [firstQuoted, secondQuoted, if_true] at same
          exact Text.quoted_append_inj same
      | false =>
          simp only [firstQuoted, secondQuoted, if_true, Bool.false_eq_true, if_false] at same
          exact absurd same.symm (bare_ne_quoted secondQuoted)
  | false =>
      cases secondQuoted : needsQuotes second with
      | true =>
          simp only [firstQuoted, secondQuoted, if_true, Bool.false_eq_true, if_false] at same
          exact absurd same (bare_ne_quoted firstQuoted)
      | false =>
          simp only [firstQuoted, secondQuoted, Bool.false_eq_true, if_false] at same
          obtain ⟨sameText, sameRest⟩ := Text.append_inj_of_goesOn (unmarked firstQuoted)
            (unmarked secondQuoted) goesOn otherGoesOn same
          exact ⟨String.toList_inj.mp sameText, sameRest⟩

theorem toList_text_index (isFirst : Bool) (position : Nat) :
    (text isFirst (.index position)).toList = '[' :: (Nat.toDigits 10 position ++ [']']) := by
  simp [text, Nat.toString_eq_repr]

/-- A key does not begin like an index, wherever it stands. -/
theorem text_key_ne_index (isFirst : Bool) (position : Nat) :
    (text isFirst (.key first)).toList ++ rest ≠
      (text isFirst (.index position)).toList ++ remaining := by
  rw [toList_text_index]
  cases isFirst with
  | true => simpa [text] using keyText_ne_index
  | false => simp [text]

/-- The first step of a text, and where it ends, can be told from the text. -/
theorem text_append_inj (isFirst : Bool) (goesOn : Text.GoesOn marks rest)
    (otherGoesOn : Text.GoesOn marks remaining)
    (same : (left.text isFirst).toList ++ rest = (right.text isFirst).toList ++ remaining) :
    left = right ∧ rest = remaining := by
  cases left with
  | key name =>
      cases right with
      | key other =>
          simp only [text, String.toList_append, List.append_assoc,
            List.append_cancel_left_eq] at same
          obtain ⟨rfl, sameRest⟩ := keyText_append_inj goesOn otherGoesOn same
          exact ⟨rfl, sameRest⟩
      | index position => exact absurd same (text_key_ne_index isFirst position)
  | index position =>
      cases right with
      | key other => exact absurd same.symm (text_key_ne_index isFirst position)
      | index another =>
          simp only [toList_text_index, List.cons_append, List.append_assoc, List.nil_append,
            List.cons.injEq, true_and] at same
          obtain ⟨rfl, sameRest⟩ := Text.toDigits_append_inj (by decide) (by decide) (by decide) same
          exact ⟨rfl, sameRest⟩

end Text
end Segment

namespace DocPath

/-- The steps after the first. -/
def tailText (steps : DocPath) : List Char := steps.flatMap fun step => (step.text false).toList

theorem tailText_goesOn (steps : DocPath) : Text.GoesOn Segment.marks steps.tailText := by
  cases steps with
  | nil => exact nofun
  | cons step later => exact step.text_goesOn _

theorem toList_text_cons (step : Segment) (later : DocPath) :
    (text (step :: later)).toList = (step.text true).toList ++ tailText later := by
  simp only [text, String.toList_append, String.toList_join, tailText, List.flatMap_map]

theorem tailText_inj {left right : DocPath} (same : left.tailText = right.tailText) :
    left = right := by
  induction left generalizing right with
  | nil =>
      cases right with
      | nil => rfl
      | cons step later => cases step <;> simp [tailText, Segment.text] at same
  | cons step later inLater =>
      cases right with
      | nil => cases step <;> simp [tailText, Segment.text] at same
      | cons other others =>
          obtain ⟨rfl, sameTail⟩ := Segment.text_append_inj false (tailText_goesOn later)
            (tailText_goesOn others) same
          rw [inLater sameTail]

/-- Paths with a first step are told apart by their texts. -/
theorem text_cons_inj {left right : Segment} {later others : DocPath}
    (same : text (left :: later) = text (right :: others)) : left :: later = right :: others := by
  have letters := congrArg String.toList same
  rw [toList_text_cons, toList_text_cons] at letters
  obtain ⟨rfl, sameTail⟩ := Segment.text_append_inj true (tailText_goesOn later)
    (tailText_goesOn others) letters
  rw [tailText_inj sameTail]

/-- A path's text is never empty and does not begin with a blank. -/
theorem text_begins (path : DocPath) :
    ∃ character rest, path.text.toList = character :: rest ∧ character ≠ ' ' := by
  cases path with
  | nil => exact ⟨'<', "root>".toList, by decide +kernel, by decide⟩
  | cons step later =>
      rw [toList_text_cons]
      cases step with
      | index position =>
          rw [Segment.toList_text_index]
          exact ⟨'[', _, rfl, by decide⟩
      | key name =>
          obtain ⟨character, rest, begins, unmarked⟩ := Segment.keyText_begins name
          refine ⟨character, rest ++ tailText later, by simp [Segment.text, begins], ?_⟩
          exact fun isBlank => unmarked (by simp [isBlank])

/-- The one path with a step that is written like the empty one. -/
def rootLike : DocPath := [.key "<root>"]

theorem text_rootLike : text rootLike = text [] := by
  decide +kernel

/-- Two paths have the same text only if they are one, but for the empty path and the path to
a key with the name that stands for it. -/
theorem text_eq_iff (left right : DocPath) :
    left.text = right.text ↔
      left = right ∨ left = [] ∧ right = rootLike ∨ left = rootLike ∧ right = [] := by
  constructor
  · intro same
    cases left with
    | nil =>
        cases right with
        | nil => exact .inl rfl
        | cons step later =>
            rw [← text_rootLike] at same
            exact .inr (.inl ⟨rfl, (text_cons_inj same).symm⟩)
    | cons step later =>
        cases right with
        | nil =>
            rw [← text_rootLike] at same
            exact .inr (.inr ⟨text_cons_inj same, rfl⟩)
        | cons other others => exact .inl (text_cons_inj same)
  · intro alike
    obtain rfl | ⟨rfl, rfl⟩ | ⟨rfl, rfl⟩ := alike
    · rfl
    · exact text_rootLike.symm
    · exact text_rootLike

/-- A key is written like the empty path. -/
theorem text_takes_key_for_root :
    ∃ left right : DocPath, left ≠ right ∧ left.text = right.text :=
  ⟨[.key "<root>"], [], by decide, by decide +kernel⟩

end DocPath
end DocShape
