import DocShape.Proofs.Lookup

namespace DocShape

/-! Values without tags, in which a string is just its text. -/

namespace Value

mutual

/-- No tag stands anywhere in the value. -/
def untagged : Value → Bool
  | .tagged _ _ => false
  | .seq items => untaggedItems items
  | .map entries => untaggedEntries entries
  | _ => true

def untaggedItems : List Value → Bool
  | [] => true
  | item :: rest => untagged item && untaggedItems rest

def untaggedEntries : Entries → Bool
  | [] => true
  | (key, stored) :: rest => untagged key && untagged stored && untaggedEntries rest

end

theorem untagged_seq_iff {items : List Value} :
    (Value.seq items).untagged = true ↔ ∀ item ∈ items, item.untagged = true := by
  rw [untagged]
  induction items with
  | nil => simp [untaggedItems]
  | cons item rest inRest => simp [untaggedItems, inRest]

theorem untagged_map_iff {entries : Entries} :
    (Value.map entries).untagged = true ↔
      ∀ entry ∈ entries, entry.1.untagged = true ∧ entry.2.untagged = true := by
  rw [untagged]
  induction entries with
  | nil => simp [untaggedEntries]
  | cons entry rest inRest => simp [untaggedEntries, inRest, and_assoc]

theorem content_of_untagged {value : Value} (untagged : value.untagged = true) :
    value.content = value := by
  cases value with
  | tagged tag inner => simp [Value.untagged] at untagged
  | _ => rfl

theorem text?_eq_some_iff_of_untagged {value : Value} {text : String}
    (untagged : value.untagged = true) : value.text? = some text ↔ value = .string text := by
  rw [text?_eq_some_iff, content_of_untagged untagged]

theorem text?_eq_none_iff_of_untagged {value : Value} (untagged : value.untagged = true) :
    value.text? = none ↔ ∀ text, value ≠ .string text := by
  simp only [Option.eq_none_iff_forall_ne_some, ne_eq, text?_eq_some_iff_of_untagged untagged]

end Value

namespace Entries

variable {entries : Entries} {name : String} {stored : Value}

theorem get?_untagged (untagged : (Value.map entries).untagged = true)
    (found : entries.get? name = some stored) : stored.untagged = true := by
  obtain ⟨key, member, _⟩ := (get?_eq_some_iff.mp found).mem
  exact (Value.untagged_map_iff.mp untagged _ member).2

end Entries
end DocShape
