import DocShape.Proofs.Grammar.Range

namespace DocShape

/-! What the checks of a definition's keywords demand, one by one. -/

namespace Entries

variable {entries : Entries}

def Lacks (entries : Entries) (names : List String) : Prop :=
  ∀ name ∈ names, entries.get? name = none

def KeyedBy (entries : Entries) (names : List String) : Prop :=
  ∀ entry ∈ entries, ∃ name ∈ names, entry.1 = .string name

/-- A key of this name holds a truth value, or there is none. -/
def Flagged (entries : Entries) (name : String) : Prop :=
  ∀ stored, entries.get? name = some stored → ∃ value, stored = .bool value

/-- A keyword with two spellings is there in at most one of them, with this value if it is. -/
def Spelled (entries : Entries) (name synonym : String) (found : Option Value) : Prop :=
  entries.get? name = found ∧ entries.get? synonym = none ∨
    entries.get? name = none ∧ entries.get? synonym = found

@[simp]
theorem lacks_nil : entries.Lacks [] := nofun

@[simp]
theorem lacks_cons {name : String} {names : List String} :
    entries.Lacks (name :: names) ↔ entries.get? name = none ∧ entries.Lacks names :=
  List.forall_mem_cons

theorem spelled_none_iff {name synonym : String} :
    entries.Spelled name synonym none ↔ entries.Lacks [name, synonym] := by
  simp [Spelled]

theorem Spelled.not_lacks {name synonym : String} {value : Value}
    (spelled : entries.Spelled name synonym (some value)) : ¬ entries.Lacks [name, synonym] := by
  simp only [lacks_cons, lacks_nil, and_true, not_and]
  intro first second
  rcases spelled with ⟨found, _⟩ | ⟨_, found⟩
  · rw [first] at found
    cases found
  · rw [second] at found
    cases found

end Entries

namespace Heading

/-- All keys are keywords, and a description is a text. -/
structure Keyed (entries : Entries) : Prop where
  known : ∀ entry ∈ entries, isKnown entry.1 = true
  described : ∀ desc, entries.get? "desc" = some desc → desc.text?.isSome = true

/-- No keyword stands beside an include but those that may. -/
def IncludeOnly (entries : Entries) : Prop :=
  ∀ entry ∈ entries, ∀ name, entry.1.text? = some name → name ∈ includeKeywords

variable {path : String} {entries : Entries} {heading : Heading}

theorem keyed_iff :
    Keyed entries ↔ (∀ entry ∈ entries, isKnown entry.1 = true) ∧
      ∀ desc, entries.get? "desc" = some desc → desc.text?.isSome = true :=
  ⟨fun keyed => ⟨keyed.known, keyed.described⟩, fun parts => ⟨parts.1, parts.2⟩⟩

theorem malformed_ne_ok {α : Type} {fault : Malformation} {found : α} :
    malformed path fault ≠ .ok found := nofun

theorem reject_eq_ok_iff {node : String} {names : List String} :
    reject path node names entries = .ok () ↔ entries.Lacks names := by
  unfold reject Entries.Lacks
  cases present : names.find? entries.has with
  | some name =>
      have member := List.mem_of_find?_eq_some present
      have isThere := List.find?_some present
      simp only [malformed_ne_ok, false_iff]
      intro absent
      rw [Entries.has_eq_isSome_get?, absent name member] at isThere
      contradiction
  | none =>
      simpa [Entries.has_eq_isSome_get?] using present

theorem flag_eq_ok_iff {name : String} {found : Option Bool} :
    flag path name entries = .ok found ↔ entries.get? name = found.map .bool := by
  unfold flag
  cases stored : entries.get? name with
  | none => cases found <;> simp
  | some value => cases value <;> cases found <;> simp [malformed]

theorem flag_succeeds_iff (path : String) {name : String} :
    (∃ found, flag path name entries = .ok found) ↔ entries.Flagged name := by
  unfold flag Entries.Flagged
  cases stored : entries.get? name with
  | none => simp
  | some value => cases value <;> simp [malformed]

theorem either_spelled {name synonym : String} {found : Option (String × Value)}
    (chosen : either path name synonym entries = .ok found) :
    entries.Spelled name synonym (found.map (·.2)) ∧
      ∀ keyword value, found = some (keyword, value) → entries.get? keyword = some value := by
  unfold either at chosen
  unfold Entries.Spelled
  cases first : entries.get? name with
  | none =>
      cases second : entries.get? synonym <;> simp only [first, second, Except.ok.injEq] at chosen <;>
        subst chosen <;> simp [second]
  | some value =>
      cases second : entries.get? synonym <;> simp [first, second, malformed] at chosen
      subst chosen
      simp [first]

theorem either_of_spelled (path : String) {name synonym : String} {value : Option Value}
    (spelled : entries.Spelled name synonym value) :
    ∃ found, either path name synonym entries = .ok found ∧ found.map (·.2) = value := by
  unfold either
  rcases spelled with ⟨first, second⟩ | ⟨first, second⟩
  · rw [first, second]
    cases value <;> simp
  · rw [first, second]
    cases value <;> simp

theorem checkKeywords_eq_ok_iff_keyed : checkKeywords path entries = .ok () ↔ Keyed entries := by
  unfold checkKeywords
  cases unknown : entries.find? fun entry => !isKnown entry.1 with
  | some entry =>
      have member := List.mem_of_find?_eq_some unknown
      have notKnown := List.find?_some unknown
      constructor
      · intro checked
        cases checked
      · intro keyed
        rw [keyed.known entry member] at notKnown
        cases notKnown
  | none =>
      have known : ∀ entry ∈ entries, isKnown entry.1 = true := by simpa using unknown
      cases stored : entries.get? "desc" with
      | none => exact ⟨fun _ => ⟨known, by simp [stored]⟩, fun _ => rfl⟩
      | some desc =>
          cases isText : desc.text?.isSome with
          | true => exact ⟨fun _ => ⟨known, by simp [stored, isText]⟩, fun _ => by simp [isText]⟩
          | false =>
              constructor
              · intro checked
                simp [isText, malformed] at checked
              · intro keyed
                simp [keyed.described desc stored] at isText

theorem ofInclude_eq_ok_iff_alone {target : Value} :
    ofInclude path entries target = .ok heading ↔
      IncludeOnly entries ∧ ∃ name, target.text? = some name ∧ .included name = heading := by
  have alone : ((entries.filterMap fun entry => entry.1.text?).filter fun name =>
      !includeKeywords.contains name) = [] ↔ IncludeOnly entries := by
    rw [List.filter_eq_nil_iff]
    simp only [List.mem_filterMap, Bool.not_eq_true', Bool.not_eq_false, List.contains_iff_mem]
    constructor
    · intro noOther entry member name text
      exact noOther name ⟨entry, member, text⟩
    · intro alone name written
      obtain ⟨entry, member, text⟩ := written
      exact alone entry member name text
  unfold ofInclude
  rw [← alone]
  cases others : (entries.filterMap fun entry => entry.1.text?).filter fun name =>
      !includeKeywords.contains name with
  | cons other rest => simp [malformed]
  | nil => cases target.text? <;> simp [malformed]

theorem IncludeOnly.lacks {names : List String} (alone : IncludeOnly entries)
    (foreign : ∀ name ∈ names, name ∉ includeKeywords) : entries.Lacks names := by
  intro name inNames
  refine Entries.get?_eq_none_iff.mpr fun entry member named => ?_
  exact foreign name inNames (alone entry member name (by rw [named]; rfl))

theorem checkKeywords_eq_ok_iff (untagged : (Value.map entries).untagged = true) :
    checkKeywords path entries = .ok () ↔
      entries.KeyedBy ("desc" :: keywords) ∧
        ∀ stored, entries.get? "desc" = some stored → ∃ text, stored = .string text := by
  have known (entry : Value × Value) (member : entry ∈ entries) :
      isKnown entry.1 = true ↔ ∃ name ∈ "desc" :: keywords, entry.1 = .string name := by
    have plain := (Value.untagged_map_iff.mp untagged entry member).1
    unfold isKnown keywordOf
    cases text : entry.1.text? with
    | none =>
        rw [Value.text?_eq_none_iff_of_untagged plain] at text
        simp [text, keywords]
    | some name =>
        rw [Value.text?_eq_some_iff_of_untagged plain] at text
        simp [text]
  have described (stored : Value) (found : entries.get? "desc" = some stored) :
      stored.text?.isSome = true ↔ ∃ text, stored = .string text := by
    rw [Option.isSome_iff_exists]
    simp only [Value.text?_eq_some_iff_of_untagged (Entries.get?_untagged untagged found)]
  rw [checkKeywords_eq_ok_iff_keyed]
  constructor
  · intro keyed
    exact ⟨fun entry member => (known entry member).mp (keyed.known entry member),
      fun stored found => (described stored found).mp (keyed.described stored found)⟩
  · intro accepted
    exact ⟨fun entry member => (known entry member).mpr (accepted.1 entry member),
      fun stored found => (described stored found).mpr (accepted.2 stored found)⟩

theorem ofInclude_eq_ok_iff {target : Value}
    (keyed : entries.KeyedBy ("desc" :: keywords)) (untagged : target.untagged = true) :
    ofInclude path entries target = .ok heading ↔
      entries.KeyedBy includeKeywords ∧ ∃ name, target = .string name ∧ .included name = heading := by
  have alone : IncludeOnly entries ↔ entries.KeyedBy includeKeywords := by
    constructor
    · intro alone entry member
      obtain ⟨name, _, named⟩ := keyed entry member
      exact ⟨name, alone entry member name (by rw [named]; rfl), named⟩
    · intro alone entry member name text
      obtain ⟨allowed, inList, named⟩ := alone entry member
      rw [named] at text
      cases text
      exact inList
  simp only [ofInclude_eq_ok_iff_alone, alone, Value.text?_eq_some_iff_of_untagged untagged]

end Heading
end DocShape
