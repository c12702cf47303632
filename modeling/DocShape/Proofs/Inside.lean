import DocShape.Proofs.Lookup

namespace DocShape.Value

/-! Values that stand inside a value, at any depth, and laws for all mappings among them. -/

/-- A value and all that stands in it: below its tags, as an element, as a key, or under
one. -/
inductive Holds : Value → Value → Prop where
  | here (value : Value) : Holds value value
  | tagged {tag : String} {inner found : Value} (below : Holds inner found) :
      Holds (.tagged tag inner) found
  | item {items : List Value} {item found : Value} (member : item ∈ items)
      (below : Holds item found) : Holds (.seq items) found
  | key {entries : Entries} {entry : Value × Value} {found : Value} (member : entry ∈ entries)
      (below : Holds entry.1 found) : Holds (.map entries) found
  | stored {entries : Entries} {entry : Value × Value} {found : Value}
      (member : entry ∈ entries) (below : Holds entry.2 found) : Holds (.map entries) found

/-- The law holds for every mapping in the value. -/
def Everywhere (law : Entries → Prop) (value : Value) : Prop :=
  ∀ entries, value.Holds (.map entries) → law entries

/-- No mapping in the value has a key twice. -/
def Distinct (value : Value) : Prop := value.Everywhere Entries.Distinct

variable {law : Entries → Prop} {value : Value} {entries : Entries} {items : List Value}

theorem everywhere_tagged_iff {tag : String} :
    (tagged tag value).Everywhere law ↔ value.Everywhere law := by
  constructor
  · intro everywhere entries holds
    exact everywhere entries (.tagged holds)
  · intro everywhere entries holds
    cases holds with
    | tagged below => exact everywhere entries below

theorem everywhere_seq_iff :
    (seq items).Everywhere law ↔ ∀ item ∈ items, item.Everywhere law := by
  constructor
  · intro everywhere item member entries holds
    exact everywhere entries (.item member holds)
  · intro everywhere entries holds
    cases holds with
    | item member below => exact everywhere _ member entries below

theorem everywhere_map_iff :
    (map entries).Everywhere law ↔
      law entries ∧ ∀ entry ∈ entries, entry.1.Everywhere law ∧ entry.2.Everywhere law := by
  constructor
  · intro everywhere
    refine ⟨everywhere entries (.here _), fun entry member => ⟨?_, ?_⟩⟩
    · intro inner holds
      exact everywhere inner (.key member holds)
    · intro inner holds
      exact everywhere inner (.stored member holds)
  · intro ⟨here, below⟩ inner holds
    cases holds with
    | here => exact here
    | key member inKey => exact (below _ member).1 inner inKey
    | stored member inStored => exact (below _ member).2 inner inStored

/-- A scalar holds no mapping. -/
theorem everywhere_scalar :
    null.Everywhere law ∧ (∀ flag, (bool flag).Everywhere law) ∧
      (∀ number, (int number).Everywhere law) ∧ (∀ number, (float number).Everywhere law) ∧
      ∀ text, (string text).Everywhere law :=
  ⟨nofun, nofun, nofun, nofun, nofun⟩

theorem Everywhere.content (everywhere : value.Everywhere law) :
    value.content.Everywhere law := by
  induction value using content.induct with
  | case1 tag inner ofInner => exact ofInner (everywhere_tagged_iff.mp everywhere)
  | case2 other untagged =>
      rw [Value.content]
      · exact everywhere
      · exact untagged

end DocShape.Value
