import DocShape.Proofs.Grammar.Wording
import DocShape.Proofs.Linking.ReadAlike

namespace DocShape

/-! Definitions that state the same, up to the definitions inside them, which are read alike.

Two such mappings hold alike under every keyword that counts.  What the one states is then
followed through to what the other states, and both are read as the same definition.
-/

/-- Fields of one name with definitions that are read alike. -/
def FieldAlike (field other : Value × Value) : Prop := field.1 = other.1 ∧ field.2.ReadAlike other.2

theorem FieldAlike.symm {field other : Value × Value} (alike : FieldAlike field other) :
    FieldAlike other field :=
  ⟨alike.1.symm, alike.2.symm⟩

/-- The same value, or two lists of fields or element shapes that are read alike one by one. -/
inductive Nested : Value → Value → Prop where
  | same (value : Value) : Nested value value
  | fields {fields others : Entries} (each : List.Forall₂ FieldAlike fields others) :
      Nested (.map fields) (.map others)
  | variants {variants others : List Value} (each : List.Forall₂ Value.ReadAlike variants others) :
      Nested (.seq variants) (.seq others)

theorem Nested.symm {value other : Value} (nested : Nested value other) : Nested other value := by
  cases nested with
  | same => exact .same value
  | fields each => exact .fields (each.flip.imp fun _ _ => FieldAlike.symm)
  | variants each => exact .variants (each.flip.imp fun _ _ => Value.ReadAlike.symm)

inductive Layout.Alike : Layout → Layout → Prop where
  | same (layout : Layout) : Alike layout layout
  | map {fields others : Entries} {allowEmpty : Bool} (each : List.Forall₂ FieldAlike fields others) :
      Alike (.map fields allowEmpty) (.map others allowEmpty)
  | seq {variants others : List Value} {matching : Matching}
      (each : List.Forall₂ Value.ReadAlike variants others) :
      Alike (.seq variants matching) (.seq others matching)

namespace Definition

variable {limit depth : Nat} {path : String}

theorem readField_of_alike {field other : Value × Value} (alike : FieldAlike field other)
    (sound : (readField limit path depth field).1.Sound) :
    readField limit path depth other = readField limit path depth field := by
  obtain ⟨key, child⟩ := field
  obtain ⟨_, otherChild⟩ := other
  obtain ⟨rfl, alike⟩ := alike
  unfold readField at sound ⊢
  cases text : key.text? with
  | none => rfl
  | some name =>
      simp only [text, ← alike.required] at sound ⊢
      cases demanded : requiredOf (path ++ "." ++ name) child with
      | error error => rfl
      | ok required =>
          simp only [demanded] at sound ⊢
          rw [alike.read limit _ _ (.inl sound)]

theorem ofLayout_of_alike {layout other : Layout} (alike : layout.Alike other)
    (sound : (ofLayout limit path depth layout).Sound) :
    ofLayout limit path depth other = ofLayout limit path depth layout := by
  cases alike with
  | same => rfl
  | map each =>
      rw [ofLayout, sound_map_iff, List.forall_mem_map] at sound
      rw [ofLayout, ofLayout]
      congr 1
      rw [← List.forall₂_eq_eq_eq, List.forall₂_map_left_iff, List.forall₂_map_right_iff]
      refine (forall₂_of_mem each fun field member other _ alike => ?_).flip
      exact readField_of_alike alike (sound field member).1
  | seq each =>
      rw [ofLayout, sound_seq_iff, List.forall_mem_map] at sound
      rw [ofLayout, ofLayout]
      congr 1
      rw [← List.forall₂_eq_eq_eq, List.forall₂_map_left_iff, List.forall₂_map_right_iff]
      refine (forall₂_of_mem (forall₂_zipIdx each 0) fun indexed member other _ alike => ?_).flip
      obtain ⟨variant, index⟩ := indexed
      obtain ⟨again, _⟩ := other
      obtain ⟨rfl, alike⟩ := alike
      exact (alike.read limit _ _ (.inl (sound _ member))).symm

end Definition

namespace Heading

/-- Each keyword of the pair holds alike in both mappings, or each holds what the other keyword
holds in the other mapping. -/
def AlikeUnder (name synonym : String) (entries others : Entries) : Prop :=
  Option.Rel Nested (entries.get? name) (others.get? name) ∧
      Option.Rel Nested (entries.get? synonym) (others.get? synonym) ∨
    Option.Rel Nested (entries.get? name) (others.get? synonym) ∧
      Option.Rel Nested (entries.get? synonym) (others.get? name)

/-- Range definitions that make the same range. -/
def SameRange (bounds others : Value) : Prop :=
  ∀ path range, rangeOf path bounds = .ok range ↔ rangeOf path others = .ok range

/-- Both mappings state the same but for the definitions inside them, which are read alike. -/
structure Rephrased (entries others : Entries) : Prop where
  keyed : Keyed entries ↔ Keyed others
  target : entries.get? "include" = others.get? "include"
  alone : entries.get? "include" ≠ none → (IncludeOnly entries ↔ IncludeOnly others)
  fields : AlikeUnder "mapping" "map" entries others
  sequence : AlikeUnder "sequence" "seq" entries others
  asks : ∀ fields sequence, entries.Spelled "mapping" "map" fields →
    entries.Spelled "sequence" "seq" sequence → fields = none ∨ sequence = none →
      Asked.of? (entries.get? "type") fields.isSome sequence.isSome =
        Asked.of? (others.get? "type") fields.isSome sequence.isSome
  leaf : ∀ name ∈ ["required", "allowempty", "matching", "enum", "pattern"],
    entries.get? name = others.get? name
  range : Option.Rel SameRange (entries.get? "range") (others.get? "range")

variable {path : String} {entries others : Entries}

theorem AlikeUnder.symm {name synonym : String} (alike : AlikeUnder name synonym entries others) :
    AlikeUnder name synonym others entries := by
  have swap := @rel_swap _ _ Nested Nested fun _ _ => Nested.symm
  rcases alike with ⟨first, second⟩ | ⟨first, second⟩
  · exact .inl ⟨swap first, swap second⟩
  · exact .inr ⟨swap second, swap first⟩

theorem AlikeUnder.spelled {name synonym : String} {found : Option Value}
    (alike : AlikeUnder name synonym entries others) (spelled : entries.Spelled name synonym found) :
    ∃ again, others.Spelled name synonym again ∧ Option.Rel Nested found again := by
  rcases alike with ⟨first, second⟩ | ⟨first, second⟩
  · rcases spelled with ⟨rfl, absent⟩ | ⟨absent, rfl⟩
    · exact ⟨_, .inl ⟨rfl, (eq_none_iff_of_rel second).mp absent⟩, first⟩
    · exact ⟨_, .inr ⟨(eq_none_iff_of_rel first).mp absent, rfl⟩, second⟩
  · rcases spelled with ⟨rfl, absent⟩ | ⟨absent, rfl⟩
    · exact ⟨_, .inr ⟨(eq_none_iff_of_rel second).mp absent, rfl⟩, first⟩
    · exact ⟨_, .inl ⟨rfl, (eq_none_iff_of_rel first).mp absent⟩, second⟩

theorem AlikeUnder.absent {name synonym : String} (alike : AlikeUnder name synonym entries others)
    (absent : entries.Spelled name synonym none) : others.Spelled name synonym none := by
  obtain ⟨again, spelled, related⟩ := alike.spelled absent
  cases related
  exact spelled

namespace Rephrased

theorem symm (rephrased : Rephrased entries others) : Rephrased others entries where
  keyed := rephrased.keyed.symm
  target := rephrased.target.symm
  alone present := (rephrased.alone (rephrased.target ▸ present)).symm
  fields := rephrased.fields.symm
  sequence := rephrased.sequence.symm
  asks := by
    intro fields sequence ofFields ofSequence single
    obtain ⟨fieldsAgain, spelledFields, relatedFields⟩ := rephrased.fields.symm.spelled ofFields
    obtain ⟨again, spelled, related⟩ := rephrased.sequence.symm.spelled ofSequence
    rw [isSome_eq_of_rel relatedFields, isSome_eq_of_rel related]
    refine (rephrased.asks _ _ spelledFields spelled ?_).symm
    exact single.imp (eq_none_iff_of_rel relatedFields).mp (eq_none_iff_of_rel related).mp
  leaf name member := (rephrased.leaf name member).symm
  range := rel_swap (fun _ _ same path range => (same path range).symm) rephrased.range

variable (rephrased : Rephrased entries others)

include rephrased

theorem lacks {names : List String} (absent : entries.Lacks names)
    (known : names ⊆ ["range", "required", "allowempty", "matching", "enum", "pattern"]) :
    others.Lacks names := by
  intro name member
  have missing := absent name member
  rcases List.mem_cons.mp (known member) with rfl | isLeaf
  · exact (eq_none_iff_of_rel rephrased.range).mp missing
  · rw [← rephrased.leaf name isLeaf]
    exact missing

theorem rangeUnder_eq {kind : Kind} {found : Option Range}
    (isRange : rangeUnder path kind entries = .ok found) :
    rangeUnder path kind others = .ok found := by
  have related := rephrased.range
  cases stored : entries.get? "range" with
  | none =>
      rw [rangeUnder, stored] at isRange
      rw [rangeUnder, (eq_none_iff_of_rel related).mp stored]
      exact isRange
  | some bounds =>
      obtain ⟨supported, range, made, same⟩ := (rangeUnder_eq_ok_iff stored).mp isRange
      cases again : others.get? "range" with
      | none =>
          rw [stored, again] at related
          cases related
      | some otherBounds =>
          rw [stored, again] at related
          cases related with
          | some sameRange =>
              exact (rangeUnder_eq_ok_iff again).mpr
                ⟨supported, range, (sameRange path range).mp made, same⟩

theorem ofScalar_eq {kind : Kind} {heading : Heading}
    (found : ofScalar path entries kind false = .ok heading) :
    ofScalar path others kind false = .ok heading := by
  obtain ⟨_, lacks, flagged, isFlagged, filled, range, isRange, allowed, isAllowed, pattern,
    isPattern, made⟩ := ofScalar_eq_ok_iff.mp found
  rw [flag_eq_ok_iff, rephrased.leaf "allowempty" (by simp), ← flag_eq_ok_iff] at isFlagged
  rw [allowedUnder, rephrased.leaf "enum" (by simp), ← allowedUnder] at isAllowed
  rw [patternUnder, rephrased.leaf "pattern" (by simp), ← patternUnder] at isPattern
  exact ofScalar_eq_ok_iff.mpr ⟨rfl, rephrased.lacks lacks (by decide), flagged, isFlagged, filled,
    range, rephrased.rangeUnder_eq isRange, allowed, isAllowed, pattern, isPattern, made⟩

theorem states {layout : Layout} (states : States path entries layout) :
    ∃ again, States path others again ∧ layout.Alike again := by
  have direct (absent : entries.get? "include" = none) : others.get? "include" = none :=
    rephrased.target.symm.trans absent
  cases states with
  | included target named alone =>
      have same := (rephrased.alone (by simp [target])).mp alone
      exact ⟨_, .included (rephrased.target.symm.trans target) named same, .same _⟩
  | @map fields table flagged absent ofFields noSequence asked lacks flag isTable =>
      obtain ⟨again, spelled, related⟩ := rephrased.fields.spelled ofFields
      rw [rephrased.leaf "allowempty" (by simp)] at flag
      have asks := rephrased.asks fields none ofFields noSequence (.inr rfl)
      rw [Option.isSome_none, asked, isSome_eq_of_rel related] at asks
      have states {fields : Entries} (isTable : again = none ∧ fields = [] ∨
          again = some (.map fields)) : States path others (.map fields (flagged.getD false)) :=
        .map (direct absent) spelled (rephrased.sequence.absent noSequence) asks.symm
          (rephrased.lacks lacks (by decide)) flag isTable
      rcases isTable with ⟨rfl, rfl⟩ | rfl
      · cases related
        exact ⟨_, states (.inl ⟨rfl, rfl⟩), .same _⟩
      · cases related with
        | some nested =>
            cases nested with
            | same => exact ⟨_, states (.inr rfl), .same _⟩
            | fields each => exact ⟨_, states (.inr rfl), .map each⟩
  | @seq variants matching absent noFields ofSequence present asked lacks rule =>
      obtain ⟨again, spelled, related⟩ := rephrased.sequence.spelled ofSequence
      rw [matchingUnder, rephrased.leaf "matching" (by simp), ← matchingUnder] at rule
      have asks := rephrased.asks none _ noFields ofSequence (.inl rfl)
      rw [Option.isSome_none, Option.isSome_some, asked] at asks
      have states {variants : List Value} (isList : again = some (.seq variants))
          (present : variants ≠ []) : States path others (.seq variants matching) :=
        .seq (direct absent) (rephrased.fields.absent noFields) (isList ▸ spelled) present asks.symm
          (rephrased.lacks lacks (by decide)) rule
      cases related with
      | some nested =>
          cases nested with
          | same => exact ⟨_, states rfl present, .same _⟩
          | variants each =>
              refine ⟨_, states rfl ?_, .seq each⟩
              rw [← List.length_pos_iff, ← each.length_eq, List.length_pos_iff]
              exact present
  | @scalar kind leaf absent noFields noSequence asked ofKind =>
      have asks := rephrased.asks none none noFields noSequence (.inl rfl)
      rw [Option.isSome_none, asked] at asks
      exact ⟨_, .scalar (direct absent) (rephrased.fields.absent noFields)
        (rephrased.sequence.absent noSequence) asks.symm (rephrased.ofScalar_eq ofKind), .same _⟩

theorem read {limit depth : Nat} (sound : (Definition.read limit path depth (.map entries)).Sound) :
    Definition.read limit path depth (.map entries) =
      Definition.read limit path depth (.map others) := by
  obtain ⟨layout, keyed, states, same⟩ := Definition.states_of_sound sound
  obtain ⟨again, statesAgain, alike⟩ := rephrased.states states
  have keyedAgain := rephrased.keyed.mp keyed
  rw [Definition.read_of_states (Definition.shallow_of_sound sound) keyedAgain statesAgain, same]
  exact (Definition.ofLayout_of_alike alike (same ▸ sound)).symm

theorem readAlike : (Value.map entries).ReadAlike (.map others) := by
  refine ⟨fun path => ?_, fun limit path depth sound => ?_⟩
  · rw [Definition.requiredOf, Definition.requiredOf, flag, flag,
      rephrased.leaf "required" (by simp)]
  · rcases sound with sound | sound
    · exact rephrased.read sound
    · exact (rephrased.symm.read sound).symm

end Rephrased

end Heading

end DocShape
