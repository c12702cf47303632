import DocShape.Proofs.Text.Quoted

namespace DocShape.Text

/-! Texts and their lines. -/

def OneLine (text : String) : Prop := '\n' ∉ text.toList

instance : DecidablePred OneLine := fun _ => instDecidableNot

/-- The lines of a text, without the marks between them. -/
def lines (text : String) : List String := (text.toList.splitOn '\n').map String.ofList

/-- How far a line is set off to the right. -/
def indentation (line : String) : Nat := (line.toList.takeWhile (· == ' ')).length

section OneLine

variable {first second separator : String} {texts : List String}

@[simp]
theorem oneLine_append_iff : OneLine (first ++ second) ↔ OneLine first ∧ OneLine second := by
  simp [OneLine]

theorem oneLine_intercalate (ofSeparator : OneLine separator)
    (each : ∀ text ∈ texts, OneLine text) : OneLine (separator.intercalate texts) := by
  induction texts with
  | nil => simp [OneLine]
  | cons text rest inRest =>
      obtain ⟨ofText, ofRest⟩ := List.forall_mem_cons.mp each
      cases rest with
      | nil => simpa using ofText
      | cons next later =>
          rw [String.intercalate_cons_cons, oneLine_append_iff, oneLine_append_iff]
          exact ⟨⟨ofText, ofSeparator⟩, inRest ofRest⟩

theorem oneLine_toDigits {base : Nat} (several : 1 < base) (enough : base ≤ 16) (number : Nat) :
    '\n' ∉ Nat.toDigits base number := by
  intro member
  obtain ⟨digit, below, isBreak⟩ := mem_toDigits several member
  have apart : ∀ digit < 16, Nat.digitChar digit ≠ '\n' := by decide
  exact apart digit (by omega) isBreak

theorem oneLine_nat (number : Nat) : OneLine (toString number) := by
  have digits : (toString number).toList = Nat.toDigits 10 number := by
    simp [Nat.toString_eq_repr]
  rw [OneLine, digits]
  exact oneLine_toDigits (by decide) (by decide) number

theorem oneLine_int (number : Int) : OneLine (toString number) := by
  cases number with
  | ofNat whole => exact oneLine_nat whole
  | negSucc whole =>
      have written : toString (Int.negSucc whole) = "-" ++ toString (whole + 1) := rfl
      rw [written, oneLine_append_iff]
      exact ⟨by decide, oneLine_nat _⟩

theorem oneLine_quoted (text : String) : OneLine (quoted text) := by
  have unbroken (character : Char) : '\n' ∉ escape character := by
    unfold escape
    split
    · decide
    · decide
    · decide
    · decide
    · decide
    · decide
    · rename_i notBreak _ _
      split
      · exact fun isBreak => notBreak (List.mem_singleton.mp isBreak).symm
      · simp [codePoint, oneLine_toDigits]
  rw [OneLine, toList_quoted]
  simp [unbroken]

end OneLine

theorem length_lines (text : String) : (lines text).length = text.toList.count '\n' + 1 := by
  have counted (characters : List Char) :
      (characters.splitOn '\n').length = characters.count '\n' + 1 := by
    induction characters with
    | nil => rfl
    | cons character rest inRest =>
        rw [List.splitOn_cons_eq_if_modifyHead, List.count_cons]
        split
        · rw [List.length_cons, inRest]
        · rw [List.length_modifyHead, inRest, Nat.add_zero]
  rw [lines, List.length_map, counted]

/-- Lines set behind each other with marks between them are told apart again. -/
theorem lines_of_toList {text first : String} {rest : List String}
    (each : ∀ line ∈ first :: rest, OneLine line)
    (joined : text.toList = first.toList ++ rest.flatMap fun line => '\n' :: line.toList) :
    lines text = first :: rest := by
  have split (first : String) (rest : List String)
      (each : ∀ line ∈ first :: rest, OneLine line) :
      (first.toList ++ rest.flatMap fun line => '\n' :: line.toList).splitOn '\n' =
        (first :: rest).map String.toList := by
    induction rest generalizing first with
    | nil =>
        rw [List.flatMap_nil, List.append_nil]
        exact List.splitOn_eq_singleton (List.forall_mem_cons.mp each).1
    | cons second later inLater =>
        obtain ⟨ofFirst, ofRest⟩ := List.forall_mem_cons.mp each
        rw [List.flatMap_cons, List.cons_append, List.splitOn_append_cons_self_of_not_mem ofFirst,
          inLater second ofRest]
        rfl
  rw [lines, joined, split first rest each, List.map_map]
  simp

end DocShape.Text
