namespace DocShape

/-! Named entries in the order of their names, at most one for each name. -/

structure Catalog (α : Type) where
  entries : List (String × α)
  ordered : entries.Pairwise fun earlier later => earlier.1 < later.1

namespace Catalog

variable {α : Type}

def empty : Catalog α := ⟨[], .nil⟩

instance : Inhabited (Catalog α) := ⟨empty⟩

def names (catalog : Catalog α) : List String := catalog.entries.map (·.1)

def size (catalog : Catalog α) : Nat := catalog.entries.length

def find? (catalog : Catalog α) (name : String) : Option α :=
  (catalog.entries.find? fun entry => entry.1 == name).map (·.2)

def contains (catalog : Catalog α) (name : String) : Bool :=
  catalog.entries.any fun entry => entry.1 == name

/-- Puts an entry at its place; an entry of that name is replaced. -/
def insertEntry (name : String) (stored : α) : List (String × α) → List (String × α)
  | [] => [(name, stored)]
  | entry :: rest =>
      if name < entry.1 then (name, stored) :: entry :: rest
      else if name = entry.1 then (name, stored) :: rest
      else entry :: insertEntry name stored rest

theorem mem_insertEntry {name : String} {stored : α} {entries : List (String × α)}
    {entry : String × α} (member : entry ∈ insertEntry name stored entries) :
    entry = (name, stored) ∨ entry ∈ entries := by
  induction entries with
  | nil => simpa [insertEntry] using member
  | cons first rest inRest =>
      simp only [insertEntry] at member
      split at member
      · simpa using member
      · split at member
        · rcases List.mem_cons.mp member with same | later
          · exact .inl same
          · exact .inr (List.mem_cons_of_mem _ later)
        · rcases List.mem_cons.mp member with same | later
          · exact .inr (by simp [same])
          · rcases inRest later with same | earlier
            · exact .inl same
            · exact .inr (List.mem_cons_of_mem _ earlier)

theorem lt_of_not_lt_of_ne {left right : String} (notBelow : ¬ left < right)
    (different : left ≠ right) : right < left := by
  rcases Std.lt_trichotomy left right with below | same | above
  · exact absurd below notBelow
  · exact absurd same different
  · exact above

theorem insertEntry_ordered {name : String} {stored : α} {entries : List (String × α)}
    (ordered : entries.Pairwise fun earlier later => earlier.1 < later.1) :
    (insertEntry name stored entries).Pairwise fun earlier later => earlier.1 < later.1 := by
  induction entries with
  | nil => simp [insertEntry]
  | cons first rest inRest =>
      obtain ⟨firstBelow, restOrdered⟩ := List.pairwise_cons.mp ordered
      simp only [insertEntry]
      split
      · rename_i below
        refine List.pairwise_cons.mpr ⟨fun entry member => ?_, ordered⟩
        rcases List.mem_cons.mp member with same | later
        · rw [same]; exact below
        · exact String.lt_trans below (firstBelow entry later)
      · split
        · rename_i same
          exact List.pairwise_cons.mpr
            ⟨fun entry member => by simpa [same] using firstBelow entry member, restOrdered⟩
        · rename_i notBelow different
          refine List.pairwise_cons.mpr ⟨fun entry member => ?_, inRest restOrdered⟩
          rcases mem_insertEntry member with same | earlier
          · rw [same]; exact lt_of_not_lt_of_ne notBelow different
          · exact firstBelow entry earlier

def insert (catalog : Catalog α) (name : String) (stored : α) : Catalog α :=
  ⟨insertEntry name stored catalog.entries, insertEntry_ordered catalog.ordered⟩

def extend (catalog other : Catalog α) : Catalog α :=
  other.entries.foldl (fun extended entry => extended.insert entry.1 entry.2) catalog

def map {β : Type} (change : String → α → β) (catalog : Catalog α) : Catalog β :=
  ⟨catalog.entries.map fun entry => (entry.1, change entry.1 entry.2),
    List.pairwise_map.mpr catalog.ordered⟩

theorem find?_empty (name : String) : (empty : Catalog α).find? name = none := rfl

theorem find?_insertEntry (name wanted : String) (stored : α) {entries : List (String × α)}
    (ordered : entries.Pairwise fun earlier later => earlier.1 < later.1) :
    ((insertEntry name stored entries).find? fun entry => entry.1 == wanted).map (·.2) =
      if name = wanted then some stored
      else (entries.find? fun entry => entry.1 == wanted).map (·.2) := by
  induction entries with
  | nil => by_cases same : name = wanted <;> simp [insertEntry, same]
  | cons first rest inRest =>
      obtain ⟨_, restOrdered⟩ := List.pairwise_cons.mp ordered
      simp only [insertEntry]
      split
      · by_cases same : name = wanted
        · simp [same]
        · simp [List.find?_cons, same]
      · split
        · rename_i same
          by_cases wantedHere : name = wanted
          · simp [wantedHere]
          · have notFirst : first.1 ≠ wanted := fun here => wantedHere (same.trans here)
            simp [wantedHere, notFirst]
        · by_cases here : first.1 = wanted
          · rename_i notBelow different
            have notName : name ≠ wanted := fun same => different (same.trans here.symm)
            simp [here, notName]
          · simpa [List.find?_cons, here] using inRest restOrdered

theorem find?_insert (catalog : Catalog α) (name wanted : String) (stored : α) :
    (catalog.insert name stored).find? wanted =
      if name = wanted then some stored else catalog.find? wanted :=
  find?_insertEntry name wanted stored catalog.ordered

theorem contains_eq_isSome_find? (catalog : Catalog α) (name : String) :
    catalog.contains name = (catalog.find? name).isSome := by
  unfold contains find?
  rw [Option.isSome_map, List.isSome_find?]

end Catalog
end DocShape
