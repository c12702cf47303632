import DocShape.Proofs.Linking.Mentions

namespace DocShape

/-! What the keywords of a definition state, as a relation between its entries and what they
amount to.  The relation looks the keywords up one by one, so that it can be seen which of them
matter, and holds of what reading finds and of nothing else. -/

/-- What a definition amounts to: the definitions inside it as they are written, and everything
else as it is read. -/
inductive Layout where
  | included (name : String)
  | map (fields : Entries) (allowEmpty : Bool)
  | seq (variants : List Value) (matching : Matching)
  | scalar (leaf : Scalar)

/-- The kind of node that a definition asks for. -/
inductive Asked where
  | map
  | seq
  | scalar (kind : Kind)
deriving DecidableEq

namespace Asked

def ofName? (name : String) : Option Asked :=
  if name ∈ ["map", "mapping"] then some .map
  else if name ∈ ["seq", "sequence"] then some .seq
  else (Kind.ofName? name).map .scalar

/-- A written type asks for what it names.  Without one the fields ask for a map, or else the
element shapes for a sequence, or else it is a string. -/
def of? (type : Option Value) (hasFields hasSequence : Bool) : Option Asked :=
  match type with
  | some (.string name) => ofName? name
  | some _ => none
  | none => some (if hasFields then .map else if hasSequence then .seq else .scalar .str)

variable {name : String} {type : Option Value} {hasFields hasSequence : Bool} {kind : Kind}

theorem ofName?_eq_map_iff : ofName? name = some .map ↔ name ∈ ["map", "mapping"] := by
  unfold ofName?
  split
  · simp [*]
  · split <;> simp [*]

theorem ofName?_eq_seq_iff : ofName? name = some .seq ↔ name ∈ ["seq", "sequence"] := by
  unfold ofName?
  split
  · rename_i isMap
    rcases List.mem_pair.mp isMap with rfl | rfl <;> simp
  · split <;> simp [*]

theorem ofName?_eq_scalar_iff :
    ofName? name = some (.scalar kind) ↔ Kind.ofName? name = some kind := by
  unfold ofName?
  split
  · rename_i isMap
    rcases List.mem_pair.mp isMap with rfl | rfl <;> simp [Kind.ofName?]
  · split
    · rename_i isSeq
      rcases List.mem_pair.mp isSeq with rfl | rfl <;> simp [Kind.ofName?]
    · simp

theorem of?_eq_map_iff :
    of? type hasFields hasSequence = some .map ↔
      (∃ name ∈ ["map", "mapping"], type = some (.string name)) ∨
        type = none ∧ hasFields = true := by
  unfold of?
  split
  · simp [ofName?_eq_map_iff]
  · simp_all
  · cases hasFields <;> cases hasSequence <;> simp

theorem of?_eq_seq_iff :
    of? type hasFields hasSequence = some .seq ↔
      (∃ name ∈ ["seq", "sequence"], type = some (.string name)) ∨
        type = none ∧ hasFields = false ∧ hasSequence = true := by
  unfold of?
  split
  · simp [ofName?_eq_seq_iff]
  · simp_all
  · cases hasFields <;> cases hasSequence <;> simp

theorem of?_eq_scalar_iff :
    of? type hasFields hasSequence = some (.scalar kind) ↔
      (∃ name, type = some (.string name) ∧ Kind.ofName? name = some kind) ∨
        type = none ∧ hasFields = false ∧ hasSequence = false ∧ kind = .str := by
  unfold of?
  split
  · simp [ofName?_eq_scalar_iff]
  · simp_all
  · cases hasFields <;> cases hasSequence <;> simp [eq_comm]

end Asked

namespace Heading

/-- This is what the entries state, if their keys are accepted. -/
inductive States (path : String) (entries : Entries) : Layout → Prop where
  | included {written : Value} {name : String} (target : entries.get? "include" = some written)
      (named : written.text? = some name) (alone : IncludeOnly entries) :
      States path entries (.included name)
  | map {fields : Option Value} {table : Entries} {flagged : Option Bool}
      (direct : entries.get? "include" = none)
      (ofFields : entries.Spelled "mapping" "map" fields)
      (noSequence : entries.Spelled "sequence" "seq" none)
      (asked : Asked.of? (entries.get? "type") fields.isSome false = some .map)
      (lacks : entries.Lacks ["matching", "range", "enum", "pattern"])
      (flag : entries.get? "allowempty" = flagged.map .bool)
      (isTable : fields = none ∧ table = [] ∨ fields = some (.map table)) :
      States path entries (.map table (flagged.getD false))
  | seq {variants : List Value} {matching : Matching}
      (direct : entries.get? "include" = none)
      (noFields : entries.Spelled "mapping" "map" none)
      (ofSequence : entries.Spelled "sequence" "seq" (some (.seq variants)))
      (present : variants ≠ [])
      (asked : Asked.of? (entries.get? "type") false true = some .seq)
      (lacks : entries.Lacks ["allowempty", "range", "enum", "pattern"])
      (rule : matchingUnder path entries = .ok matching) :
      States path entries (.seq variants matching)
  | scalar {kind : Kind} {leaf : Scalar} (direct : entries.get? "include" = none)
      (noFields : entries.Spelled "mapping" "map" none)
      (noSequence : entries.Spelled "sequence" "seq" none)
      (asked : Asked.of? (entries.get? "type") false false = some (.scalar kind))
      (ofKind : ofScalar path entries kind false = .ok (.scalar leaf)) :
      States path entries (.scalar leaf)

def layout (entries : Entries) : Heading → Layout
  | .included name => .included name
  | .map keyword allowEmpty => .map (entries.table keyword) allowEmpty
  | .seq keyword matching => .seq (entries.items keyword) matching
  | .scalar leaf => .scalar leaf

variable {path : String} {entries : Entries} {heading : Heading}

section Found

variable {fields sequence : Option (String × Value)}

theorem states_of_ofMap (direct : entries.get? "include" = none)
    (ofFields : either path "mapping" "map" entries = .ok fields)
    (ofSequence : either path "sequence" "seq" entries = .ok sequence)
    (typed : Grammar.IsTyped entries ["map", "mapping"] ∨
      entries.get? "type" = none ∧ fields.isSome = true)
    (found : ofMap path entries fields sequence = .ok heading) :
    States path entries (heading.layout entries) := by
  obtain ⟨fieldsSpelled, fieldsFound⟩ := either_spelled ofFields
  obtain ⟨rfl, lacks, flagged, isFlagged, keyword, under, rfl⟩ := ofMap_eq_ok_iff.mp found
  refine .map direct fieldsSpelled (either_spelled ofSequence).1 ?_ lacks
    (flag_eq_ok_iff.mp isFlagged) ?_
  · rw [Option.isSome_map]
    exact Asked.of?_eq_map_iff.mpr typed
  · rcases fieldsUnder_eq_ok_iff.mp under with ⟨rfl, rfl⟩ | ⟨table, rfl⟩
    · have absent := Entries.spelled_none_iff.mp fieldsSpelled
      simp only [Entries.lacks_cons] at absent
      exact .inl ⟨rfl, by simp [Entries.table, absent.1]⟩
    · exact .inr (by simp [Entries.table, fieldsFound keyword _ rfl])

theorem states_of_ofSeq (direct : entries.get? "include" = none)
    (ofFields : either path "mapping" "map" entries = .ok fields)
    (ofSequence : either path "sequence" "seq" entries = .ok sequence)
    (typed : Grammar.IsTyped entries ["seq", "sequence"] ∨
      entries.get? "type" = none ∧ fields.isSome = false ∧ sequence.isSome = true)
    (found : ofSeq path entries fields sequence = .ok heading) :
    States path entries (heading.layout entries) := by
  obtain ⟨sequenceSpelled, sequenceFound⟩ := either_spelled ofSequence
  obtain ⟨rfl, lacks, keyword, under, matching, isMatching, rfl⟩ := ofSeq_eq_ok_iff.mp found
  obtain ⟨variants, rfl, present⟩ := elementsUnder_eq_ok_iff.mp under
  have isList : entries.items keyword = variants := by
    simp [Entries.items, sequenceFound keyword _ rfl]
  rw [layout, isList]
  exact .seq direct (either_spelled ofFields).1 sequenceSpelled present
    (Asked.of?_eq_seq_iff.mpr typed) lacks isMatching

theorem states_of_ofScalar {kind : Kind} (direct : entries.get? "include" = none)
    (ofFields : either path "mapping" "map" entries = .ok fields)
    (ofSequence : either path "sequence" "seq" entries = .ok sequence)
    (typed : (∃ name, entries.get? "type" = some (.string name) ∧ Kind.ofName? name = some kind) ∨
      entries.get? "type" = none ∧ fields.isSome = false ∧ sequence.isSome = false ∧ kind = .str)
    (found : ofScalar path entries kind (fields.isSome || sequence.isSome) = .ok heading) :
    States path entries (heading.layout entries) := by
  have childless := (ofScalar_eq_ok_iff.mp found).1
  rw [childless] at found
  obtain ⟨noFields, noSequence⟩ := Bool.or_eq_false_iff.mp childless
  rw [Option.isSome_eq_false_iff, Option.isNone_iff_eq_none] at noFields noSequence
  subst noFields noSequence
  obtain ⟨_, _, _, _, _, _, _, _, _, _, _, rfl⟩ := ofScalar_eq_ok_iff.mp found
  exact .scalar direct (either_spelled ofFields).1 (either_spelled ofSequence).1
    (Asked.of?_eq_scalar_iff.mpr typed) found

end Found

theorem either_of_spelled_some {name synonym : String} {value : Value} (path : String)
    (spelled : entries.Spelled name synonym (some value)) :
    ∃ keyword, either path name synonym entries = .ok (some (keyword, value)) ∧
      entries.get? keyword = some value := by
  obtain ⟨found, chosen, isValue⟩ := either_of_spelled path spelled
  obtain ⟨⟨keyword, _⟩, rfl, rfl⟩ := Option.map_eq_some_iff.mp isValue
  exact ⟨keyword, chosen, (keyword_of_either chosen).2⟩

section Stated

variable (keyed : Keyed entries) (direct : entries.get? "include" = none)

include keyed direct

theorem read_of_chosen {fields sequence : Option (String × Value)}
    (ofFields : either path "mapping" "map" entries = .ok fields)
    (ofSequence : either path "sequence" "seq" entries = .ok sequence)
    (chosen : Chosen path entries fields sequence heading) : read path entries = .ok heading := by
  have checked : checkKeywords path entries = .ok () := checkKeywords_eq_ok_iff_keyed.mpr keyed
  exact read_eq_ok_iff.mpr
    ⟨checked, .inr ⟨direct, fields, ofFields, sequence, ofSequence, chosen⟩⟩

theorem read_of_map {fields : Option Value} {table : Entries} {flagged : Option Bool}
    (ofFields : entries.Spelled "mapping" "map" fields)
    (noSequence : entries.Spelled "sequence" "seq" none)
    (asked : Asked.of? (entries.get? "type") fields.isSome false = some .map)
    (lacks : entries.Lacks ["matching", "range", "enum", "pattern"])
    (flag : entries.get? "allowempty" = flagged.map .bool)
    (isTable : fields = none ∧ table = [] ∨ fields = some (.map table)) :
    ∃ heading, read path entries = .ok heading ∧
      heading.layout entries = .map table (flagged.getD false) := by
  have foundSequence : either path "sequence" "seq" entries = .ok none :=
    either_of_lacks (Entries.spelled_none_iff.mp noSequence)
  have made {found : Option (String × Value)} {keyword : String}
      (under : fieldsUnder path found = .ok keyword) :
      ofMap path entries found none = .ok (.map keyword (flagged.getD false)) :=
    ofMap_eq_ok_iff.mpr ⟨rfl, lacks, flagged, flag_eq_ok_iff.mpr flag, keyword, under, rfl⟩
  rcases isTable with ⟨rfl, rfl⟩ | rfl
  · have absent := Entries.spelled_none_iff.mp ofFields
    refine ⟨_, read_of_chosen keyed direct (either_of_lacks absent) foundSequence
      (.map (Asked.of?_eq_map_iff.mp asked) (made rfl)), ?_⟩
    simp only [Entries.lacks_cons] at absent
    simp [layout, Entries.table, absent.1]
  · obtain ⟨keyword, foundFields, stored⟩ := either_of_spelled_some path ofFields
    refine ⟨_, read_of_chosen keyed direct foundFields foundSequence
      (.map (Asked.of?_eq_map_iff.mp asked) (made rfl)), ?_⟩
    simp [layout, Entries.table, stored]

theorem read_of_seq {variants : List Value} {matching : Matching}
    (noFields : entries.Spelled "mapping" "map" none)
    (ofSequence : entries.Spelled "sequence" "seq" (some (.seq variants)))
    (present : variants ≠ [])
    (asked : Asked.of? (entries.get? "type") false true = some .seq)
    (lacks : entries.Lacks ["allowempty", "range", "enum", "pattern"])
    (rule : matchingUnder path entries = .ok matching) :
    ∃ heading, read path entries = .ok heading ∧
      heading.layout entries = .seq variants matching := by
  obtain ⟨keyword, foundSequence, stored⟩ := either_of_spelled_some path ofSequence
  have under : elementsUnder path (some (keyword, .seq variants)) = .ok keyword :=
    elementsUnder_eq_ok_iff.mpr ⟨variants, rfl, present⟩
  have made : ofSeq path entries none (some (keyword, .seq variants)) =
      .ok (.seq keyword matching) :=
    ofSeq_eq_ok_iff.mpr ⟨rfl, lacks, keyword, under, matching, rule, rfl⟩
  refine ⟨_, read_of_chosen keyed direct (either_of_lacks (Entries.spelled_none_iff.mp noFields))
    foundSequence (.seq (Asked.of?_eq_seq_iff.mp asked) made), ?_⟩
  simp [layout, Entries.items, stored]

end Stated

theorem read_of_states {stated : Layout} (keyed : Keyed entries)
    (states : States path entries stated) :
    ∃ heading, read path entries = .ok heading ∧ heading.layout entries = stated := by
  cases states with
  | @included written name target named alone =>
      have checked : checkKeywords path entries = .ok () := checkKeywords_eq_ok_iff_keyed.mpr keyed
      have included : ofInclude path entries written = .ok (.included name) :=
        ofInclude_eq_ok_iff_alone.mpr ⟨alone, name, named, rfl⟩
      exact ⟨_, read_eq_ok_iff.mpr ⟨checked, .inl ⟨_, target, included⟩⟩, rfl⟩
  | map direct ofFields noSequence asked lacks flag isTable =>
      exact read_of_map keyed direct ofFields noSequence asked lacks flag isTable
  | seq direct noFields ofSequence present asked lacks rule =>
      exact read_of_seq keyed direct noFields ofSequence present asked lacks rule
  | @scalar kind leaf direct noFields noSequence asked ofKind =>
      have chosen : Chosen path entries none none (.scalar leaf) :=
        .scalar kind (Asked.of?_eq_scalar_iff.mp asked) ofKind
      exact ⟨_, read_of_chosen keyed direct (either_of_lacks (Entries.spelled_none_iff.mp noFields))
        (either_of_lacks (Entries.spelled_none_iff.mp noSequence)) chosen, rfl⟩

/-- A definition is read as what its keywords state. -/
theorem read_iff_states {stated : Layout} :
    (∃ heading, read path entries = .ok heading ∧ heading.layout entries = stated) ↔
      Keyed entries ∧ States path entries stated := by
  constructor
  · intro isRead
    obtain ⟨heading, found, rfl⟩ := isRead
    obtain ⟨checked, ⟨target, isInclude, found⟩ | ⟨direct, fields, ofFields, sequence, ofSequence,
      chosen⟩⟩ := read_eq_ok_iff.mp found
    · obtain ⟨alone, name, named, rfl⟩ := ofInclude_eq_ok_iff_alone.mp found
      exact ⟨checkKeywords_eq_ok_iff_keyed.mp checked, .included isInclude named alone⟩
    · refine ⟨checkKeywords_eq_ok_iff_keyed.mp checked, ?_⟩
      cases chosen with
      | map typed found => exact states_of_ofMap direct ofFields ofSequence typed found
      | seq typed found => exact states_of_ofSeq direct ofFields ofSequence typed found
      | scalar kind typed found => exact states_of_ofScalar direct ofFields ofSequence typed found
  · intro accepted
    exact read_of_states accepted.1 accepted.2

end Heading

namespace Definition

variable {limit depth : Nat} {path : String} {entries : Entries}

/-- The definition that is read from what a definition amounts to. -/
def ofLayout (limit : Nat) (path : String) (depth : Nat) : Layout → Definition
  | .included name => .included name
  | .map fields allowEmpty => .map (fields.map (readField limit path depth)) allowEmpty
  | .seq variants matching => .seq (variants.zipIdx.map (readVariant limit path depth)) matching
  | .scalar leaf => .scalar leaf

theorem ofLayout_layout (heading : Heading) :
    ofLayout limit path depth (heading.layout entries) =
      ofHeading limit path depth entries heading := by
  cases heading <;> rfl

/-- A definition without a fault is read from what its keywords state. -/
theorem states_of_sound (sound : (read limit path depth (.map entries)).Sound) :
    ∃ stated, Heading.Keyed entries ∧ Heading.States path entries stated ∧
      read limit path depth (.map entries) = ofLayout limit path depth stated := by
  have shallow := shallow_of_sound sound
  rw [read_map shallow] at sound ⊢
  cases found : Heading.read path entries with
  | error error =>
      rw [found] at sound
      exact absurd sound not_sound_refused
  | ok heading =>
      obtain ⟨keyed, states⟩ := Heading.read_iff_states.mp ⟨heading, found, rfl⟩
      exact ⟨_, keyed, states, (ofLayout_layout heading).symm⟩

theorem read_of_states {stated : Layout} (shallow : depth ≤ limit) (keyed : Heading.Keyed entries)
    (states : Heading.States path entries stated) :
    read limit path depth (.map entries) = ofLayout limit path depth stated := by
  obtain ⟨heading, found, rfl⟩ := Heading.read_iff_states.mpr ⟨keyed, states⟩
  rw [read_map shallow, found, ofLayout_layout]

end Definition
end DocShape
