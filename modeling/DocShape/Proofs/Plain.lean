import DocShape.Proofs.Inside
import DocShape.Proofs.Untagged

namespace DocShape

/-! Plain documents: no tags, and no mapping with a key twice.  Of these a lookup by name
says no more than that an entry is there.
-/

namespace Value

structure Plain (value : Value) : Prop where
  untagged : value.untagged = true
  distinct : value.Distinct

variable {value : Value} {entries : Entries} {items : List Value}

theorem Plain.content (plain : value.Plain) : value.content = value :=
  content_of_untagged plain.untagged

theorem Plain.item (plain : (seq items).Plain) {item : Value} (member : item ∈ items) :
    item.Plain :=
  ⟨untagged_seq_iff.mp plain.untagged item member,
    everywhere_seq_iff.mp plain.distinct item member⟩

theorem Plain.key (plain : (map entries).Plain) {entry : Value × Value}
    (member : entry ∈ entries) : entry.1.Plain :=
  ⟨(untagged_map_iff.mp plain.untagged entry member).1,
    ((everywhere_map_iff.mp plain.distinct).2 entry member).1⟩

theorem Plain.stored (plain : (map entries).Plain) {entry : Value × Value}
    (member : entry ∈ entries) : entry.2.Plain :=
  ⟨(untagged_map_iff.mp plain.untagged entry member).2,
    ((everywhere_map_iff.mp plain.distinct).2 entry member).2⟩

end Value

namespace Entries

variable {entries : Entries} {name : String} {law : Value → Prop}

/-- What stands under the name, if anything does, is as the law says. -/
def Optional (entries : Entries) (name : String) (law : Value → Prop) : Prop :=
  ∀ stored, (.string name, stored) ∈ entries → law stored

/-- Something stands under the name, and it is as the law says. -/
def Required (entries : Entries) (name : String) (law : Value → Prop) : Prop :=
  ∃ stored, (.string name, stored) ∈ entries ∧ law stored

theorem stores_iff_mem (plain : (Value.map entries).Plain) {stored : Value} :
    entries.Stores name stored ↔ (.string name, stored) ∈ entries := by
  constructor
  · intro stores
    obtain ⟨key, member, spelled⟩ := stores.mem
    rw [(plain.key member).content] at spelled
    rwa [← spelled]
  · intro member
    obtain ⟨before, after, split⟩ := List.append_of_mem member
    refine .inl ⟨before, .string name, after, split, rfl, fun earlier inBefore same => ?_⟩
    have distinct := (Value.everywhere_map_iff.mp plain.distinct).1
    rw [split, Entries.Distinct, List.pairwise_append] at distinct
    have different := distinct.2.2 earlier inBefore _ (List.mem_cons_self ..)
    rw [same] at different
    simp [Value.same] at different

theorem stored_unique (plain : (Value.map entries).Plain) {first second : Value}
    (isFirst : (.string name, first) ∈ entries) (isSecond : (.string name, second) ∈ entries) :
    first = second := by
  have found := Validation.literalValue?_eq_some_iff.mpr ((stores_iff_mem plain).mpr isFirst)
  have again := Validation.literalValue?_eq_some_iff.mpr ((stores_iff_mem plain).mpr isSecond)
  exact Option.some.inj (found.symm.trans again)

theorem required_iff (plain : (Value.map entries).Plain) :
    entries.Required name law ↔
      entries.Optional name law ∧ ∃ stored, (.string name, stored) ∈ entries := by
  constructor
  · intro ⟨stored, member, lawful⟩
    refine ⟨fun other inEntries => ?_, stored, member⟩
    rwa [stored_unique plain inEntries member]
  · intro ⟨lawful, stored, member⟩
    exact ⟨stored, member, lawful stored member⟩

end Entries
end DocShape
