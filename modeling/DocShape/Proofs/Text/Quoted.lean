import DocShape.Text.Quoted
import Mathlib.Data.List.Forall2

namespace DocShape.Text

/-! Written forms that show where they end.

Where the end of a form can be told from the form itself, or from the mark that has to follow,
two equal texts that begin with such forms begin with the same one and go on alike.
-/

/-- The text is over, or goes on with one of these marks. -/
def GoesOn (marks : List Char) (rest : List Char) : Prop :=
  ∀ character ∈ rest.head?, character ∈ marks

section Marks

variable {marks first second rest other : List Char}

theorem goesOn_cons {character : Char} (member : character ∈ marks) (rest : List Char) :
    GoesOn marks (character :: rest) := by
  intro next isNext
  cases Option.mem_some.mp isNext
  exact member

/-- A part without marks reaches up to the first mark. -/
theorem append_inj_of_goesOn (firstBare : ∀ character ∈ first, character ∉ marks)
    (secondBare : ∀ character ∈ second, character ∉ marks)
    (restMarked : GoesOn marks rest) (otherMarked : GoesOn marks other)
    (same : first ++ rest = second ++ other) : first = second ∧ rest = other := by
  induction first generalizing second with
  | nil =>
      cases second with
      | nil => exact ⟨rfl, same⟩
      | cons character later =>
          rw [List.nil_append] at same
          have marked : character ∈ marks := restMarked character (by simp [same])
          exact absurd marked (secondBare character List.mem_cons_self)
  | cons character earlier inEarlier =>
      cases second with
      | nil =>
          rw [List.nil_append] at same
          have marked : character ∈ marks := otherMarked character (by simp [← same])
          exact absurd marked (firstBare character List.mem_cons_self)
      | cons another later =>
          obtain ⟨sameHead, sameTail⟩ := List.cons.inj same
          obtain ⟨sameParts, sameRest⟩ := inEarlier
            (fun inner member => firstBare inner (List.mem_cons_of_mem _ member))
            (fun inner member => secondBare inner (List.mem_cons_of_mem _ member)) sameTail
          exact ⟨by rw [sameHead, sameParts], sameRest⟩

end Marks

section Digits

variable {base number other : Nat}

theorem mem_toDigits (several : 1 < base) {character : Char}
    (member : character ∈ Nat.toDigits base number) :
    ∃ digit < base, Nat.digitChar digit = character := by
  induction number using Nat.strongRecOn with
  | ind number inSmaller =>
      rw [Nat.toDigits_eq_if several] at member
      by_cases short : number < base
      · rw [if_pos short] at member
        exact ⟨number, short, (List.mem_singleton.mp member).symm⟩
      · rw [if_neg short] at member
        rcases List.mem_append.mp member with earlier | last
        · exact inSmaller (number / base) (Nat.div_lt_self (by omega) several) earlier
        · exact ⟨_, Nat.mod_lt _ (by omega), (List.mem_singleton.mp last).symm⟩

theorem digitChar_inj {digit next : Nat} (isDigit : digit < 16) (isNext : next < 16)
    (same : Nat.digitChar digit = Nat.digitChar next) : digit = next := by
  have each : ∀ digit next : Fin 16, Nat.digitChar digit = Nat.digitChar next → digit = next := by
    decide
  exact Fin.val_eq_of_eq (each ⟨digit, isDigit⟩ ⟨next, isNext⟩ same)

/-- A number can be read off its digits, up to base sixteen. -/
theorem toDigits_inj (several : 1 < base) (enough : base ≤ 16)
    (same : Nat.toDigits base number = Nat.toDigits base other) : number = other := by
  induction number using Nat.strongRecOn generalizing other with
  | ind number inSmaller =>
      rw [Nat.toDigits_eq_if several, Nat.toDigits_eq_if several (n := other)] at same
      by_cases short : number < base
      · by_cases otherShort : other < base
        · rw [if_pos short, if_pos otherShort] at same
          exact digitChar_inj (by omega) (by omega) (List.singleton_inj.mp same)
        · rw [if_pos short, if_neg otherShort] at same
          have lengths := congrArg List.length same
          have more := Nat.length_toDigits_pos (b := base) (n := other / base)
          simp only [List.length_singleton, List.length_append] at lengths
          omega
      · by_cases otherShort : other < base
        · rw [if_neg short, if_pos otherShort] at same
          have lengths := congrArg List.length same
          have more := Nat.length_toDigits_pos (b := base) (n := number / base)
          simp only [List.length_singleton, List.length_append] at lengths
          omega
        · rw [if_neg short, if_neg otherShort] at same
          obtain ⟨sameFront, sameLast⟩ := List.append_inj' same rfl
          have wholes := inSmaller (number / base) (Nat.div_lt_self (by omega) several) sameFront
          have rests := digitChar_inj (Nat.lt_of_lt_of_le (Nat.mod_lt number (by omega)) enough)
            (Nat.lt_of_lt_of_le (Nat.mod_lt other (by omega)) enough)
            (List.singleton_inj.mp sameLast)
          rw [← Nat.div_add_mod number base, ← Nat.div_add_mod other base, wholes, rests]

/-- Digits reach up to a mark that is none of them. -/
theorem toDigits_append_inj (several : 1 < base) (enough : base ≤ 16) {mark : Char}
    (apart : ∀ digit < 16, Nat.digitChar digit ≠ mark) {rest remaining : List Char}
    (same : Nat.toDigits base number ++ mark :: rest = Nat.toDigits base other ++ mark :: remaining) :
    number = other ∧ rest = remaining := by
  have bare (written : Nat) : ∀ character ∈ Nat.toDigits base written, character ∉ [mark] := by
    intro character member isMark
    obtain ⟨digit, below, rfl⟩ := mem_toDigits several member
    exact apart digit (Nat.lt_of_lt_of_le below enough) (List.mem_singleton.mp isMark)
  obtain ⟨sameDigits, sameRest⟩ := append_inj_of_goesOn (bare number) (bare other)
    (goesOn_cons (List.mem_singleton_self mark) rest)
    (goesOn_cons (List.mem_singleton_self mark) remaining) same
  exact ⟨toDigits_inj several enough sameDigits, (List.cons.inj sameRest).2⟩

end Digits

/-- A list of forms that show where they end reaches up to a mark that begins none of them. -/
theorem flatMap_append_inj {α : Type} {write : α → List Char} {mark : Char} {agree : α → α → Prop}
    {first second : List α} {rest remaining : List Char}
    (unmarked : ∀ member later further, write member ++ later ≠ mark :: further)
    (each : ∀ member ∈ first, ∀ other later further,
      write member ++ later = write other ++ further → agree member other ∧ later = further)
    (same : first.flatMap write ++ mark :: rest = second.flatMap write ++ mark :: remaining) :
    List.Forall₂ agree first second ∧ rest = remaining := by
  induction first generalizing second with
  | nil =>
      cases second with
      | nil => exact ⟨.nil, (List.cons.inj same).2⟩
      | cons other others =>
          rw [List.flatMap_cons, List.append_assoc] at same
          exact absurd same.symm (unmarked other _ _)
  | cons member members inMembers =>
      cases second with
      | nil =>
          rw [List.flatMap_cons, List.append_assoc] at same
          exact absurd same (unmarked member _ _)
      | cons other others =>
          rw [List.flatMap_cons, List.flatMap_cons, List.append_assoc, List.append_assoc] at same
          obtain ⟨agreed, sameTail⟩ := each member List.mem_cons_self other _ _ same
          obtain ⟨agree, sameRest⟩ := inMembers
            (fun inner inMembers => each inner (List.mem_cons_of_mem _ inMembers)) sameTail
          exact ⟨.cons agreed agree, sameRest⟩

/-- A way to write characters between quotation marks.  Some have a form of their own, which is
a letter behind a backslash; others are written by their code, behind a backslash and a `u`. -/
structure Escaping where
  forms : List (Char × Char)
  Coded : Char → Prop
  code : Char → List Char
  lettersApart : ∀ form ∈ forms, ∀ another ∈ forms, form.2 = another.2 → form.1 = another.1
  notCode : ∀ form ∈ forms, form.2 ≠ 'u'
  codesApart : ∀ {first second : Char} {rest remaining : List Char}, Coded first → Coded second →
    code first ++ rest = code second ++ remaining → first = second ∧ rest = remaining

namespace Escaping

/-- The forms of a character: any but the two marks can stand for itself. -/
inductive Writes (escaping : Escaping) (character : Char) : List Char → Prop where
  | bare (plain : character ∉ ['"', '\\']) : Writes escaping character [character]
  | short {letter : Char} (form : (character, letter) ∈ escaping.forms) :
      Writes escaping character ['\\', letter]
  | code (coded : escaping.Coded character) :
      Writes escaping character ('\\' :: 'u' :: escaping.code character)

variable {escaping : Escaping} {first second : Char} {written other rest remaining : List Char}

theorem bare_ne_marked (plain : first ∉ ['"', '\\']) {mark : Char} (marked : mark ∈ ['"', '\\']) :
    first :: rest ≠ mark :: remaining := by
  intro same
  have isMark : first = mark := (List.cons.inj same).1
  exact plain (isMark ▸ marked)

theorem Writes.ne_quote (writes : escaping.Writes first written) :
    written ++ rest ≠ '"' :: remaining := by
  cases writes with
  | bare plain => exact bare_ne_marked plain (by decide)
  | short => simp
  | code => simp

/-- What a written form stands for, and where it ends, can be told from the form. -/
theorem Writes.append_inj (writes : escaping.Writes first written)
    (alsoWrites : escaping.Writes second other) (same : written ++ rest = other ++ remaining) :
    first = second ∧ rest = remaining := by
  cases writes with
  | bare plain =>
      cases alsoWrites with
      | bare => simpa using same
      | short => exact absurd same (bare_ne_marked plain (by decide))
      | code => exact absurd same (bare_ne_marked plain (by decide))
  | short form =>
      cases alsoWrites with
      | bare plain => exact absurd same.symm (bare_ne_marked plain (by decide))
      | short another =>
          obtain ⟨sameLetter, sameRest⟩ := List.cons.inj (List.cons.inj same).2
          exact ⟨escaping.lettersApart _ form _ another sameLetter, sameRest⟩
      | code => exact absurd (List.cons.inj (List.cons.inj same).2).1 (escaping.notCode _ form)
  | code coded =>
      cases alsoWrites with
      | bare plain => exact absurd same.symm (bare_ne_marked plain (by decide))
      | short another =>
          exact absurd (List.cons.inj (List.cons.inj same).2).1.symm (escaping.notCode _ another)
      | code alsoCoded =>
          exact escaping.codesApart coded alsoCoded (List.cons.inj (List.cons.inj same).2).2

/-- A quoted text ends at its closing quotation mark, and can be read back up to it. -/
theorem quoted_append_inj {write : Char → List Char}
    (writes : ∀ character, escaping.Writes character (write character)) {first second : String}
    (same : '"' :: (first.toList.flatMap write ++ '"' :: rest) =
      '"' :: (second.toList.flatMap write ++ '"' :: remaining)) :
    first = second ∧ rest = remaining := by
  obtain ⟨agree, sameRest⟩ := flatMap_append_inj (fun character _ _ => (writes character).ne_quote)
    (fun character _ other _ _ => (writes character).append_inj (writes other))
    (List.cons.inj same).2
  rw [List.forall₂_eq_eq_eq] at agree
  exact ⟨String.toList_inj.mp agree, sameRest⟩

end Escaping

/-- Quoting by code points, between braces. -/
def quoting : Escaping where
  forms := [('\x00', '0'), ('\t', 't'), ('\r', 'r'), ('\n', 'n'), ('"', '"'), ('\\', '\\')]
  Coded _ := True
  code character := '\x7b' :: (Nat.toDigits 16 character.toNat ++ ['\x7d'])
  lettersApart := by decide
  notCode := by decide
  codesApart _ _ same := by
    simp only [List.cons_append, List.append_assoc, List.nil_append, List.cons.injEq,
      true_and] at same
    obtain ⟨sameCode, sameRest⟩ :=
      toDigits_append_inj (by decide) (Nat.le_refl 16) (by decide) same
    exact ⟨Char.toNat_inj.mp sameCode, sameRest⟩

theorem quoting_writes (character : Char) : quoting.Writes character (escape character) := by
  unfold escape
  split
  · exact .short (by decide)
  · exact .short (by decide)
  · exact .short (by decide)
  · exact .short (by decide)
  · exact .short (by decide)
  · exact .short (by decide)
  · rename_i notQuote notBackslash
    split
    · apply Escaping.Writes.bare
      simp only [List.mem_cons, List.not_mem_nil, or_false, not_or]
      exact ⟨notQuote, notBackslash⟩
    · exact .code trivial

theorem toList_quoted (text : String) :
    (quoted text).toList = '"' :: (text.toList.flatMap escape ++ ['"']) := by
  rw [quoted, String.toList_ofList]
  rfl

theorem quoted_append_inj {first second : String} {rest remaining : List Char}
    (same : (quoted first).toList ++ rest = (quoted second).toList ++ remaining) :
    first = second ∧ rest = remaining := by
  simp only [toList_quoted, List.cons_append, List.append_assoc, List.nil_append] at same
  exact Escaping.quoted_append_inj quoting_writes same

end DocShape.Text
