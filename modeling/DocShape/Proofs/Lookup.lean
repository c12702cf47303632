import DocShape.Schema.Validation
import Mathlib.Data.List.Forall2
import Mathlib.Data.List.Pairwise

namespace DocShape

/-! What is found in a mapping under a name. -/

namespace Value

theorem content_string (text : String) : (Value.string text).content = .string text := rfl

theorem content_map (entries : Entries) : (Value.map entries).content = .map entries := rfl

theorem isPlain_iff {name : String} {key : Value} :
    key.isPlain name = true ↔ key = .string name := by
  cases key <;> simp [isPlain]

theorem isNamed_iff {name : String} {key : Value} :
    key.isNamed name = true ↔ key.content = .string name :=
  isPlain_iff

/-- A path knows a key that spells a name by that name. -/
theorem keyText_of_spelled {key : Value} {name : String} (spelled : key.content = .string name) :
    key.keyText = name := by
  rw [← keyText_content, spelled]
  rfl

theorem text?_eq_some_iff {text : String} {value : Value} :
    value.text? = some text ↔ value.content = .string text := by
  unfold text?
  cases value.content <;> simp

end Value

namespace Entries

variable {entries : Entries} {name : String} {stored : Value}

def Distinct (entries : Entries) : Prop :=
  entries.Pairwise fun earlier later => earlier.1.same later.1 = false

/-- The first entry with a key as wanted holds `stored`. -/
def IsFirst (entries : Entries) (wanted : Value → Prop) (stored : Value) : Prop :=
  ∃ before key after, entries = before ++ (key, stored) :: after ∧ wanted key ∧
    ∀ earlier ∈ before, ¬ wanted earlier.1

/-- What a mapping stores under a name: the value of exactly that key, or without one the
value of the first key that is the name below its tags. -/
def Stores (entries : Entries) (name : String) (stored : Value) : Prop :=
  entries.IsFirst (· = .string name) stored ∨
    (∀ entry ∈ entries, entry.1 ≠ .string name) ∧
      entries.IsFirst (fun key => key.content = .string name) stored

/-- The keys of two entries do not spell one name, with or without tags. -/
def SpelledApart (left right : Value × Value) : Prop :=
  ∀ name, left.1.content = .string name → right.1.content ≠ .string name

instance : Std.Symm SpelledApart :=
  ⟨fun _ _ apart name spelled again => apart name again spelled⟩

def NamesOnce (entries : Entries) : Prop := entries.Pairwise SpelledApart

theorem NamesOnce.unique (once : entries.NamesOnce) {first second : Value × Value}
    (isFirst : first ∈ entries) (isSecond : second ∈ entries)
    (spelled : first.1.content = .string name) (again : second.1.content = .string name) :
    first = second := by
  by_contra different
  exact List.Pairwise.forall once isFirst isSecond different name spelled again

theorem NamesOnce.perm {others : Entries} (once : entries.NamesOnce) (order : entries.Perm others) :
    others.NamesOnce :=
  (order.pairwise_iff fun apart => Std.Symm.symm _ _ apart).mp once

theorem find?_eq_some_iff_isFirst {wanted : Value → Bool} :
    (entries.find? fun entry => wanted entry.1).map (·.2) = some stored ↔
      entries.IsFirst (fun key => wanted key = true) stored := by
  simp only [Option.map_eq_some_iff, List.find?_eq_some_iff_append, Bool.not_eq_true', IsFirst,
    Bool.not_eq_true]
  constructor
  · rintro ⟨⟨key, _⟩, ⟨found, before, after, split, absent⟩, rfl⟩
    exact ⟨before, key, after, split, found, absent⟩
  · rintro ⟨before, key, after, split, found, absent⟩
    exact ⟨(key, stored), ⟨found, before, after, split, absent⟩, rfl⟩

theorem get?_eq_some_iff :
    entries.get? name = some stored ↔ entries.IsFirst (· = .string name) stored := by
  unfold get?
  rw [find?_eq_some_iff_isFirst]
  simp only [Value.isPlain_iff]

theorem get?_eq_none_iff :
    entries.get? name = none ↔ ∀ entry ∈ entries, entry.1 ≠ .string name := by
  unfold get?
  simp only [Option.map_eq_none_iff, List.find?_eq_none, Value.isPlain_iff, ne_eq]

theorem IsFirst.mem {wanted : Value → Prop} (first : entries.IsFirst wanted stored) :
    ∃ key, (key, stored) ∈ entries ∧ wanted key := by
  obtain ⟨before, key, after, split, found, _⟩ := first
  exact ⟨key, by simp [split], found⟩

theorem Stores.mem (stores : entries.Stores name stored) :
    ∃ key, (key, stored) ∈ entries ∧ key.content = .string name := by
  rcases stores with plain | ⟨_, spelled⟩
  · obtain ⟨key, member, rfl⟩ := plain.mem
    exact ⟨_, member, rfl⟩
  · exact spelled.mem

end Entries

namespace Validation

variable {entries : Entries} {name : String} {stored : Value}

theorem literalValue?_eq_some_iff :
    literalValue? entries name = some stored ↔ entries.Stores name stored := by
  unfold literalValue? Entries.Stores
  cases plain : entries.get? name with
  | some found =>
      have first := Entries.get?_eq_some_iff.mp plain
      obtain ⟨key, member, same⟩ := first.mem
      simp only [← Entries.get?_eq_some_iff, plain]
      constructor
      · exact .inl
      · rintro (found | ⟨absent, _⟩)
        · exact found
        · exact absurd same (absent _ member)
  | none =>
      have absent := Entries.get?_eq_none_iff.mp plain
      rw [Entries.find?_eq_some_iff_isFirst]
      simp only [← Entries.get?_eq_some_iff, plain, Value.isNamed_iff]
      constructor
      · exact fun first => .inr ⟨absent, first⟩
      · rintro (found | ⟨_, first⟩)
        · cases found
        · exact first

theorem literalValue?_eq_none_iff :
    literalValue? entries name = none ↔ ∀ entry ∈ entries, entry.1.content ≠ .string name := by
  constructor
  · intro missing entry member spelled
    unfold literalValue? at missing
    cases plain : entries.get? name with
    | some found => simp [plain] at missing
    | none =>
        simp only [plain, Option.map_eq_none_iff, List.find?_eq_none] at missing
        exact missing entry member (Value.isNamed_iff.mpr spelled)
  · intro absent
    cases found : literalValue? entries name with
    | none => rfl
    | some stored =>
        obtain ⟨key, member, spelled⟩ := (literalValue?_eq_some_iff.mp found).mem
        exact absurd spelled (absent _ member)

/-- Where every name is spelled once, it leads to wherever it stands. -/
theorem literalValue?_eq_some_iff_mem (once : entries.NamesOnce) :
    literalValue? entries name = some stored ↔
      ∃ key, (key, stored) ∈ entries ∧ key.content = .string name := by
  constructor
  · intro found
    exact (literalValue?_eq_some_iff.mp found).mem
  · rintro ⟨key, member, spelled⟩
    cases found : literalValue? entries name with
    | none => exact absurd spelled (literalValue?_eq_none_iff.mp found _ member)
    | some other =>
        obtain ⟨_, inEntries, again⟩ := (literalValue?_eq_some_iff.mp found).mem
        cases once.unique member inEntries spelled again
        rfl

theorem literalValue?_perm {others : Entries} (once : entries.NamesOnce)
    (order : entries.Perm others) (name : String) :
    literalValue? entries name = literalValue? others name := by
  refine Option.ext fun stored => ?_
  rw [literalValue?_eq_some_iff_mem once, literalValue?_eq_some_iff_mem (once.perm order)]
  simp only [order.mem_iff]

section Paired

variable {related : Value → Value → Value → Prop} {others : Entries}

theorem find?_paired {wanted : Value → Bool}
    (pairs : List.Forall₂
      (fun entry other => entry.1 = other.1 ∧ related entry.1 entry.2 other.2) entries others) :
    Option.Rel (fun found again => ∃ key, wanted key = true ∧ related key found again)
      ((entries.find? fun entry => wanted entry.1).map (·.2))
      ((others.find? fun entry => wanted entry.1).map (·.2)) := by
  induction pairs with
  | nil => exact .none
  | @cons entry other _ _ paired _ ofRest =>
      obtain ⟨key, stored⟩ := entry
      obtain ⟨_, again⟩ := other
      obtain ⟨rfl, inPair⟩ := paired
      cases found : wanted key with
      | true =>
          simp only [List.find?_cons, found, Option.map_some]
          exact .some ⟨key, found, inPair⟩
      | false =>
          simp only [List.find?_cons, found]
          exact ofRest

/-- Mappings with the same keys in the same places find a name under the same key. -/
theorem literalValue?_paired
    (pairs : List.Forall₂
      (fun entry other => entry.1 = other.1 ∧ related entry.1 entry.2 other.2) entries others)
    (name : String) :
    Option.Rel (fun found again => ∃ key, key.content = .string name ∧ related key found again)
      (literalValue? entries name) (literalValue? others name) := by
  have plain : Option.Rel (fun found again => ∃ key : Value, key.isPlain name = true ∧
      related key found again) (entries.get? name) (others.get? name) := find?_paired pairs
  have spelled : Option.Rel (fun found again => ∃ key : Value, key.isNamed name = true ∧
      related key found again) ((entries.find? fun entry => entry.1.isNamed name).map (·.2))
      ((others.find? fun entry => entry.1.isNamed name).map (·.2)) := find?_paired pairs
  unfold literalValue?
  generalize entries.get? name = found at plain ⊢
  generalize others.get? name = again at plain ⊢
  cases plain with
  | some inPair =>
      obtain ⟨key, isPlain, inPair⟩ := inPair
      refine .some ⟨key, ?_, inPair⟩
      rw [Value.isPlain_iff.mp isPlain, Value.content_string]
  | none =>
      simp only [← Value.isNamed_iff]
      exact spelled

end Paired

end Validation
end DocShape
