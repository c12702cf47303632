import DocShape.Proofs.Inside
import DocShape.Value.Summary

namespace DocShape.Value

/-! Values with all their tags taken off, on whatever keys and values they stand.

Reports describe a stripped value in the same words, and where no two keys become equal the
same names lead to the same values.
-/

mutual

def stripped : Value → Value
  | .tagged _ inner => inner.stripped
  | .seq items => .seq (strippedItems items)
  | .map entries => .map (strippedEntries entries)
  | other => other

def strippedItems : List Value → List Value
  | [] => []
  | item :: rest => item.stripped :: strippedItems rest

def strippedEntries : Entries → Entries
  | [] => []
  | (key, stored) :: rest => (key.stripped, stored.stripped) :: strippedEntries rest

end

def strippedEntry (entry : Value × Value) : Value × Value := (entry.1.stripped, entry.2.stripped)

/-- No mapping in the value has two keys that are equal but for their tags. -/
def Apart (value : Value) : Prop :=
  value.Everywhere fun entries => (strippedEntries entries).Distinct

variable {entries : Entries} {name : String}

theorem strippedItems_eq_map (items : List Value) : strippedItems items = items.map stripped := by
  induction items with
  | nil => rfl
  | cons item rest inRest => simp only [strippedItems, List.map_cons, inRest]

theorem strippedEntries_eq_map (entries : Entries) :
    strippedEntries entries = entries.map strippedEntry := by
  induction entries with
  | nil => rfl
  | cons entry rest inRest =>
      simp only [strippedEntries, List.map_cons, inRest, strippedEntry]

theorem content_ne_tagged (value : Value) (tag : String) (inner : Value) :
    value.content ≠ .tagged tag inner := by
  induction value using content.induct with
  | case1 _ _ ofInner => simpa [content] using ofInner
  | case2 other untagged =>
      rw [content]
      · exact untagged tag inner
      · exact untagged

theorem content_stripped (value : Value) : value.stripped.content = value.content.stripped := by
  induction value using content.induct with
  | case1 tag inner ofInner => simpa [stripped, content] using ofInner
  | case2 other untagged =>
      cases other with
      | tagged tag inner => exact absurd rfl (untagged tag inner)
      | _ => rfl

theorem summary_stripped (value : Value) : value.stripped.summary = value.summary := by
  unfold summary
  rw [content_stripped]
  cases found : value.content with
  | tagged tag inner => exact absurd found (content_ne_tagged value tag inner)
  | seq items => simp only [stripped, strippedItems_eq_map, List.length_map]
  | map entries => simp only [stripped, strippedEntries_eq_map, List.length_map]
  | _ => rfl

theorem keyText_stripped (key : Value) : key.stripped.keyText = key.keyText := by
  unfold keyText
  rw [content_stripped]
  cases found : key.content with
  | tagged tag inner => exact absurd found (content_ne_tagged key tag inner)
  | seq items => exact summary_stripped (.seq items)
  | map entries => exact summary_stripped (.map entries)
  | _ => rfl

theorem stripped_eq_string_iff {key : Value} :
    key.stripped = .string name ↔ key.content = .string name := by
  induction key using content.induct with
  | case1 tag inner ofInner => simpa [stripped, content] using ofInner
  | case2 other untagged =>
      cases other with
      | tagged tag inner => exact absurd rfl (untagged tag inner)
      | _ => simp [stripped, content]

theorem stripped_eq_map_iff {value : Value} {bare : Entries} :
    value.stripped.content = .map bare ↔
      ∃ entries, value.content = .map entries ∧ strippedEntries entries = bare := by
  rw [content_stripped]
  cases found : value.content with
  | tagged tag inner => exact absurd found (content_ne_tagged value tag inner)
  | _ => simp [stripped]

theorem stripped_eq_seq_iff {value : Value} {bare : List Value} :
    value.stripped.content = .seq bare ↔
      ∃ items, value.content = .seq items ∧ strippedItems items = bare := by
  rw [content_stripped]
  cases found : value.content with
  | tagged tag inner => exact absurd found (content_ne_tagged value tag inner)
  | _ => simp [stripped]

theorem isNamed_stripped (key : Value) : key.stripped.isNamed name = key.isNamed name := by
  rw [isNamed, content_stripped, Bool.eq_iff_iff, isPlain_iff, isNamed_iff,
    stripped_eq_string_iff, content_content]

end DocShape.Value
