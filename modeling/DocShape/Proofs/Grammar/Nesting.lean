import DocShape.Proofs.Linking.Mentions

namespace DocShape

/-! How deep the definitions of a source are nested, and what a limit on that does to reading.

The depth of a definition is told from the source alone.  Reading passes its own depth down as
it goes; both agree because what reading goes into is what stands inside a definition.
-/

namespace Source

variable {value child : Value} {entries : Entries} {bound : Nat}

/-- The definitions right inside a definition: those of its fields or its element shapes. -/
def innerOf : Value → List Value
  | .map entries =>
      (["mapping", "map"].flatMap fun keyword => (Entries.table entries keyword).map (·.2)) ++
        ["sequence", "seq"].flatMap fun keyword => Entries.items entries keyword
  | _ => []

theorem mem_innerOf_map_iff : child ∈ innerOf (.map entries) ↔ Inside entries child := by
  simp only [innerOf, List.mem_append, List.mem_flatMap, List.mem_map, Prod.exists]
  constructor
  · intro member
    obtain ⟨keyword, spelled, key, other, member, rfl⟩ | ⟨keyword, spelled, member⟩ := member
    · unfold Entries.table at member
      split at member
      · rename_i stored
        exact .field spelled stored member
      · cases member
    · unfold Entries.items at member
      split at member
      · rename_i stored
        exact .variant spelled stored member
      · cases member
  · intro inside
    cases inside with
    | field spelled stored member =>
        exact .inl ⟨_, spelled, _, _, by simpa only [Entries.table, stored] using member, rfl⟩
    | variant spelled stored member =>
        exact .inr ⟨_, spelled, by simpa only [Entries.items, stored] using member⟩

theorem sizeOf_get?_lt {name : String} {stored : Value}
    (found : entries.get? name = some stored) : sizeOf stored < sizeOf (Value.map entries) := by
  obtain ⟨key, member, _⟩ := (Entries.get?_eq_some_iff.mp found).mem
  have inEntries := List.sizeOf_lt_of_mem member
  rw [Prod.mk.sizeOf_spec] at inEntries
  rw [Value.map.sizeOf_spec]
  omega

theorem sizeOf_inner_lt (member : child ∈ innerOf value) : sizeOf child < sizeOf value := by
  cases value with
  | map entries =>
      cases mem_innerOf_map_iff.mp member with
      | field _ stored member =>
          have inEntries := sizeOf_get?_lt stored
          have inFields := List.sizeOf_lt_of_mem member
          rw [Value.map.sizeOf_spec] at inEntries
          rw [Prod.mk.sizeOf_spec] at inFields
          omega
      | variant _ stored member =>
          have inEntries := sizeOf_get?_lt stored
          have inVariants := List.sizeOf_lt_of_mem member
          rw [Value.seq.sizeOf_spec] at inEntries
          omega
  | _ => cases member

def greatest (numbers : List Nat) : Nat := numbers.foldr max 0

theorem greatest_le_iff {numbers : List Nat} :
    greatest numbers ≤ bound ↔ ∀ number ∈ numbers, number ≤ bound := by
  induction numbers with
  | nil => simp [greatest]
  | cons first rest inRest =>
      rw [greatest] at inRest ⊢
      rw [List.foldr_cons, Nat.max_le, inRest, List.forall_mem_cons]

/-- The steps from a definition down to the deepest one inside it.  An include has nothing
inside. -/
def nesting (value : Value) : Nat :=
  greatest ((innerOf value).attach.map fun child => nesting child.1 + 1)
termination_by sizeOf value
decreasing_by exact sizeOf_inner_lt child.2

theorem nesting_le_iff :
    nesting value ≤ bound ↔ ∀ child ∈ innerOf value, nesting child + 1 ≤ bound := by
  rw [nesting, greatest_le_iff]
  simp

/-- The bodies of a source: its own and those of the fragments that it declares. -/
def bodies : Value → List Value
  | .map entries => .map (remaining entries) :: (declarations entries).map (·.2)
  | _ => []

/-- The depth of the deepest definition in a source, counted in each body from its root. -/
def depth (source : Value) : Nat := greatest ((bodies source).map nesting)

theorem depth_map_le_iff :
    depth (.map entries) ≤ bound ↔
      nesting (.map (remaining entries)) ≤ bound ∧
        ∀ name body, Declares entries name body → nesting body ≤ bound := by
  simp only [depth, greatest_le_iff, bodies, List.map_cons, List.forall_mem_cons, List.map_map,
    List.forall_mem_map, Prod.forall, Function.comp_apply, mem_declarations_iff]

end Source

namespace Definition

open Source (nesting nesting_le_iff mem_innerOf_map_iff)

variable {limit wider depth : Nat} {path : String} {entries : Entries} {heading : Heading}

theorem readField_congr {field : Value × Value}
    (ofChild : ∀ childPath, read limit childPath (depth + 1) field.2 =
      read wider childPath (depth + 1) field.2) :
    readField limit path depth field = readField wider path depth field := by
  simp only [readField, ofChild]

theorem ofHeading_congr
    (ofChild : ∀ child ∈ (heading.outline entries).children, ∀ childPath,
      read limit childPath (depth + 1) child = read wider childPath (depth + 1) child) :
    ofHeading limit path depth entries heading = ofHeading wider path depth entries heading := by
  cases heading with
  | map keyword allowEmpty =>
      have ofField := List.forall_mem_map.mp ofChild
      simp only [ofHeading]
      rw [List.map_congr_left fun field member => readField_congr (ofField field member)]
  | seq keyword matching =>
      have ofVariant (indexed : Value × Nat) (member : indexed ∈ (entries.items keyword).zipIdx) :
          readVariant limit path depth indexed = readVariant wider path depth indexed :=
        ofChild indexed.1 (List.fst_mem_of_mem_zipIdx member) _
      simp only [ofHeading]
      rw [List.map_congr_left ofVariant]
  | _ => rfl

/-- A definition that is not too deep is read alike under any wider limit. -/
theorem read_of_nesting_le {limit wider depth : Nat} {path : String} {value : Value}
    (widens : limit ≤ wider) (fits : depth + nesting value ≤ limit) :
    read limit path depth value = read wider path depth value := by
  cases value with
  | map entries =>
      have inner := nesting_le_iff.mp (Nat.le_sub_of_add_le' fits)
      rw [read_map (by omega), read_map (by omega)]
      cases found : Heading.read path entries with
      | error error => rfl
      | ok heading =>
          refine ofHeading_congr fun child member childPath => ?_
          have inside := mem_innerOf_map_iff.mpr (Heading.inside_of_children found member)
          have childFits := inner child inside
          exact read_of_nesting_le widens (by omega)
  | _ =>
      rw [read, read, if_neg (by omega), if_neg (by omega)]
      · simp
      · simp
termination_by limit - depth

theorem sound_of_ofHeading (sound : (ofHeading limit path depth entries heading).Sound)
    {child : Value} (member : child ∈ (heading.outline entries).children) :
    ∃ childPath, (read limit childPath (depth + 1) child).Sound := by
  cases heading with
  | map keyword allowEmpty =>
      simp only [ofHeading, sound_map_iff, List.forall_mem_map] at sound
      obtain ⟨field, inTable, rfl⟩ := List.mem_map.mp member
      have fieldSound := (sound field inTable).1
      obtain ⟨childPath, same⟩ := readField_of_sound fieldSound
      exact ⟨childPath, same ▸ fieldSound⟩
  | seq keyword matching =>
      simp only [ofHeading, sound_seq_iff, List.forall_mem_map] at sound
      obtain ⟨index, found⟩ := List.mem_iff_getElem?.mp member
      exact ⟨_, sound (child, index) (List.mem_zipIdx_iff_getElem?.mpr found)⟩
  | _ => cases member

/-- A definition in which no fault was found is not too deep. -/
theorem nesting_le_of_sound {limit depth : Nat} {path : String} {value : Value}
    (sound : (read limit path depth value).Sound) : depth + nesting value ≤ limit := by
  have shallow := shallow_of_sound sound
  suffices nesting value ≤ limit - depth by omega
  refine nesting_le_iff.mpr fun child inner => ?_
  cases value with
  | map entries =>
      rw [read_map shallow] at sound
      cases found : Heading.read path entries with
      | error error =>
          rw [found] at sound
          exact absurd sound not_sound_refused
      | ok heading =>
          rw [found] at sound
          have member := Heading.children_of_inside found (mem_innerOf_map_iff.mp inner)
          obtain ⟨childPath, childSound⟩ := sound_of_ofHeading sound member
          have deeper := shallow_of_sound childSound
          have childFits := nesting_le_of_sound childSound
          omega
  | _ => cases inner
termination_by limit - depth

end Definition
end DocShape
