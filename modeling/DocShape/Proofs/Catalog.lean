import DocShape.Catalog
import Mathlib.Data.List.Sort

namespace DocShape.Catalog

/-! Names of a catalog and what is stored under them. -/

variable {α β : Type} {catalog : Catalog α} {name : String}

theorem find?_eq_some_iff {stored : α} :
    catalog.find? name = some stored ↔ (name, stored) ∈ catalog.entries := by
  obtain ⟨entries, ordered⟩ := catalog
  unfold find?
  induction entries with
  | nil => simp
  | cons first rest inRest =>
      obtain ⟨firstBelow, restOrdered⟩ := List.pairwise_cons.mp ordered
      by_cases here : first.1 = name
      · have notLater : (name, stored) ∉ rest := by
          intro later
          have below := firstBelow _ later
          rw [here] at below
          exact absurd below (String.lt_irrefl name)
        simp [here, notLater, Prod.ext_iff, eq_comm]
      · have notFirst : (name, stored) ≠ first := by
          rintro rfl
          exact here rfl
        simpa [List.find?_cons, here, notFirst] using inRest restOrdered

theorem mem_names_iff : name ∈ catalog.names ↔ ∃ stored, catalog.find? name = some stored := by
  simp [names, find?_eq_some_iff]

theorem contains_iff : catalog.contains name = true ↔ ∃ stored, catalog.find? name = some stored := by
  rw [contains_eq_isSome_find?, Option.isSome_iff_exists]

theorem find?_map (change : String → α → β) :
    (catalog.map change).find? name = (catalog.find? name).map (change name) := by
  unfold map find?
  rw [List.find?_map, Option.map_map, Option.map_map]
  cases found : catalog.entries.find? fun entry => entry.1 == name with
  | none => simp [Function.comp_def, found]
  | some entry =>
      have named : entry.1 = name := by simpa using List.find?_some found
      simp [Function.comp_def, found, named]

theorem names_pairwise : catalog.names.Pairwise (· < ·) :=
  List.pairwise_map.mpr catalog.ordered

theorem contains_empty : (empty : Catalog α).contains name = false := rfl

theorem contains_insert {stored : α} {wanted : String} :
    (catalog.insert name stored).contains wanted = (name == wanted || catalog.contains wanted) := by
  rw [contains_eq_isSome_find?, contains_eq_isSome_find?, find?_insert]
  by_cases same : name = wanted <;> simp [same]

/-- Adds entries one after the other; a later one replaces an earlier one of its name. -/
def insertAll (catalog : Catalog α) (added : List (String × α)) : Catalog α :=
  added.foldl (fun catalog entry => catalog.insert entry.1 entry.2) catalog

def ofList (added : List (String × α)) : Catalog α := empty.insertAll added

theorem find?_insertAll_of_notMem {added : List (String × α)}
    (absent : name ∉ added.map (·.1)) : (catalog.insertAll added).find? name = catalog.find? name := by
  induction added generalizing catalog with
  | nil => rfl
  | cons first rest inRest =>
      obtain ⟨different, later⟩ := not_or.mp (mt List.mem_cons.mpr absent)
      change ((catalog.insert first.1 first.2).insertAll rest).find? name = _
      rw [inRest later, find?_insert, if_neg (Ne.symm different)]

theorem find?_insertAll_eq_some_iff {added : List (String × α)} {stored : α}
    (distinct : (added.map (·.1)).Nodup) (member : name ∈ added.map (·.1)) :
    (catalog.insertAll added).find? name = some stored ↔ (name, stored) ∈ added := by
  induction added generalizing catalog with
  | nil => cases member
  | cons first rest inRest =>
      obtain ⟨once, distinctRest⟩ := List.nodup_cons.mp distinct
      change ((catalog.insert first.1 first.2).insertAll rest).find? name = _ ↔ _
      by_cases here : first.1 = name
      · subst here
        have notLater : (first.1, stored) ∉ rest := fun later =>
          once (List.mem_map.mpr ⟨_, later, rfl⟩)
        rw [find?_insertAll_of_notMem once, find?_insert, if_pos rfl]
        simp [notLater, Prod.ext_iff, eq_comm]
      · have notFirst : (name, stored) ≠ first := by
          rintro rfl
          exact here rfl
        have later : name ∈ rest.map (·.1) := by
          simpa [Ne.symm here] using member
        rw [inRest distinctRest later]
        simp [notFirst]

theorem find?_ofList_eq_some_iff {added : List (String × α)} {stored : α}
    (distinct : (added.map (·.1)).Nodup) :
    (ofList added).find? name = some stored ↔ (name, stored) ∈ added := by
  by_cases member : name ∈ added.map (·.1)
  · exact find?_insertAll_eq_some_iff distinct member
  · have absent : (name, stored) ∉ added := fun found =>
      member (List.mem_map.mpr ⟨_, found, rfl⟩)
    rw [ofList, find?_insertAll_of_notMem member, find?_empty]
    simp [absent]

theorem length_names : catalog.names.length = catalog.size := by
  simp [names, size]

/-- Catalogs that store the same under every name are one. -/
theorem ext_find? {other : Catalog α}
    (same : ∀ name stored, catalog.find? name = some stored ↔ other.find? name = some stored) :
    catalog = other := by
  obtain ⟨entries, ordered⟩ := catalog
  obtain ⟨others, otherOrdered⟩ := other
  simp only [find?_eq_some_iff] at same
  have irreflexive : Std.Irrefl fun earlier later : String × α => earlier.1 < later.1 :=
    ⟨fun entry => String.lt_irrefl entry.1⟩
  have entries_eq : entries = others :=
    ordered.eq_of_mem_iff otherOrdered fun {entry} => same entry.1 entry.2
  subst entries_eq
  rfl

theorem names_nodup : catalog.names.Nodup := by
  refine List.Pairwise.imp (fun below same => ?_) names_pairwise
  rw [same] at below
  exact String.lt_irrefl _ below

theorem find?_eq_none_iff : catalog.find? name = none ↔ catalog.contains name = false := by
  rw [contains_eq_isSome_find?, Option.isSome_eq_false_iff, Option.isNone_iff_eq_none]

/-- Of two catalogs the second one decides about the names it has. -/
theorem find?_extend {other : Catalog α} :
    (catalog.extend other).find? name = (other.find? name).or (catalog.find? name) := by
  change (catalog.insertAll other.entries).find? name = _
  cases found : other.find? name with
  | some stored =>
      have member := find?_eq_some_iff.mp found
      exact (find?_insertAll_eq_some_iff names_nodup (List.mem_map.mpr ⟨_, member, rfl⟩)).mpr member
  | none =>
      refine find?_insertAll_of_notMem fun member => ?_
      obtain ⟨stored, stores⟩ := mem_names_iff.mp member
      rw [found] at stores
      cases stores

theorem contains_extend {other : Catalog α} :
    (catalog.extend other).contains name = (other.contains name || catalog.contains name) := by
  simp only [contains_eq_isSome_find?, find?_extend, Option.isSome_or]

theorem empty_extend {other : Catalog α} : empty.extend other = other := by
  refine ext_find? fun name stored => ?_
  rw [find?_extend, find?_empty, Option.or_none]

end DocShape.Catalog
