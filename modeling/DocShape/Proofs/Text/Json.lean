import DocShape.Proofs.Text.Quoted
import DocShape.Text.Json

namespace DocShape.Text

/-! JSON texts that show where they end: strings, fields that hold one, and lists. -/

section Strings

variable {first second name : String} {rest remaining : List Char}

/-- Quoting by the two last of four hexadecimal digits, which control characters have. -/
def jsonEscaping : Escaping where
  forms := [('"', '"'), ('\\', '\\'), ('\x08', 'b'), ('\x0c', 'f'), ('\n', 'n'), ('\r', 'r'),
    ('\t', 't')]
  Coded character := character.toNat < 0x20
  code character := '0' :: '0' :: controlDigits character.toNat
  lettersApart := by decide
  notCode := by decide
  codesApart := by
    intro first second rest remaining isControl alsoControl same
    simp only [controlDigits, List.cons_append, List.nil_append, List.cons.injEq,
      true_and] at same
    obtain ⟨sameHigh, sameLow, sameRest⟩ := same
    have high := digitChar_inj (by omega) (by omega) sameHigh
    have low := digitChar_inj (Nat.mod_lt _ (by decide)) (Nat.mod_lt _ (by decide)) sameLow
    exact ⟨Char.toNat_inj.mp (by omega), sameRest⟩

theorem jsonEscaping_writes (character : Char) :
    jsonEscaping.Writes character (jsonEscape character) := by
  unfold jsonEscape
  split
  · exact .short (by decide)
  · exact .short (by decide)
  · exact .short (by decide)
  · exact .short (by decide)
  · exact .short (by decide)
  · exact .short (by decide)
  · exact .short (by decide)
  · rename_i notQuote notBackslash _ _ _ _ _
    split
    · rename_i isControl
      exact .code isControl
    · apply Escaping.Writes.bare
      simp only [List.mem_cons, List.not_mem_nil, or_false, not_or]
      exact ⟨notQuote, notBackslash⟩

theorem toList_jsonString (text : String) :
    (jsonString text).toList = '"' :: (text.toList.flatMap jsonEscape ++ ['"']) := by
  rw [jsonString, String.toList_ofList]
  rfl

theorem jsonString_append_inj
    (same : (jsonString first).toList ++ rest = (jsonString second).toList ++ remaining) :
    first = second ∧ rest = remaining := by
  simp only [toList_jsonString, List.cons_append, List.append_assoc, List.nil_append] at same
  exact Escaping.quoted_append_inj jsonEscaping_writes same

/-- A field of an object that holds a string, and what follows it. -/
def jsonTextField (name text : String) (rest : List Char) : List Char :=
  (jsonString name).toList ++ ':' :: ((jsonString text).toList ++ rest)

theorem jsonTextField_inj
    (same : jsonTextField name first rest = jsonTextField name second remaining) :
    first = second ∧ rest = remaining :=
  jsonString_append_inj (List.cons.inj (List.append_cancel_left same)).2

end Strings

theorem cons_intercalate {α : Type} (mark : α) (first : List α) (rest : List (List α)) :
    mark :: [mark].intercalate (first :: rest) = (first :: rest).flatMap (mark :: ·) := by
  induction rest generalizing first with
  | nil => simp [List.intercalate]
  | cons second later inLater =>
      rw [List.flatMap_cons, ← inLater second]
      simp [List.intercalate]

end DocShape.Text
