import DocShape.Proofs.Definition
import DocShape.Proofs.Grammar.Form
import DocShape.Proofs.Source

namespace DocShape

/-! Node definitions by the forms of their keywords, and the definitions that reading makes of
them. -/

/-- The definitions inside a definition. -/
def Outline.children : Outline → List Value
  | .map fields => fields.map (·.2)
  | .seq variants => variants
  | .included _ | .scalar => []

namespace Grammar

/-- A field has a name.  If its definition says whether it is required, it says so with a
truth value, and of a field for all keys of a pattern it never demands one. -/
structure IsField (field : Value × Value) : Prop where
  named : ∃ name, field.1 = .string name
  flagged : ∀ entries : Entries, field.2 = .map entries → entries.Flagged "required"
  pattern : ∀ source, field.1 = .string (Definition.patternMark ++ source) →
    IsPattern source ∧ ∀ entries : Entries, field.2 = .map entries →
      entries.get? "required" ≠ some (.bool true)

/-- All definitions inside a definition are as demanded. -/
def Within (inner : Value → Prop) : Outline → Prop
  | .included _ | .scalar => True
  | .map fields => ∀ field ∈ fields, IsField field ∧ inner field.2
  | .seq variants => ∀ variant ∈ variants, inner variant

/-- A definition around others. -/
def Layer (inner : Value → Prop) (value : Value) : Prop :=
  ∃ entries outline, value = .map entries ∧ IsKeyed entries ∧ Form entries outline ∧
    Within inner outline

/-- A definition with at most `room` others around each one inside it. -/
def IsDefinition : (room : Nat) → Value → Prop
  | 0 => Layer fun _ => False
  | room + 1 => Layer (IsDefinition room)

end Grammar

namespace Definition

variable {limit depth : Nat} {path : String} {entries : Entries}

def readField (limit : Nat) (path : String) (depth : Nat) (field : Value × Value) :
    Definition × Except SchemaError (FieldKey × Bool) :=
  match field.1.text? with
  | none =>
      (.refused (.malformed path .fieldNameNotString), Heading.malformed path .fieldNameNotString)
  | some name =>
      match requiredOf (path ++ "." ++ name) field.2 with
      | .error error => (.refused error, .error error)
      | .ok required =>
          (read limit (path ++ "." ++ name) (depth + 1) field.2,
            labelOf (path ++ "." ++ name) name required)

def readVariant (limit : Nat) (path : String) (depth : Nat) (variant : Value × Nat) : Definition :=
  read limit (path ++ "[" ++ toString variant.2 ++ "]") (depth + 1) variant.1

def ofHeading (limit : Nat) (path : String) (depth : Nat) (entries : Entries) :
    Heading → Definition
  | .included name => .included name
  | .map keyword allowEmpty =>
      .map ((entries.table keyword).map (readField limit path depth)) allowEmpty
  | .seq keyword matching =>
      .seq ((entries.items keyword).zipIdx.map (readVariant limit path depth)) matching
  | .scalar leaf => .scalar leaf

theorem readFields_eq_map (fields : Entries) :
    readFields limit path depth fields = fields.map (readField limit path depth) := by
  induction fields with
  | nil => rw [readFields, List.map_nil]
  | cons field rest inRest =>
      rw [readFields, List.map_cons, inRest]
      rfl

theorem readVariants_eq_map (index : Nat) (variants : List Value) :
    readVariants limit path depth index variants =
      (variants.zipIdx index).map (readVariant limit path depth) := by
  induction variants generalizing index with
  | nil => rw [readVariants, List.zipIdx_nil, List.map_nil]
  | cons variant rest inRest =>
      rw [readVariants, List.zipIdx_cons, List.map_cons, inRest]
      rfl

theorem readFieldsUnder_eq_map (keyword : String) :
    readFieldsUnder limit path depth keyword entries =
      (entries.table keyword).map (readField limit path depth) := by
  induction entries with
  | nil =>
      rw [readFieldsUnder]
      rfl
  | cons entry rest inRest =>
      obtain ⟨key, stored⟩ := entry
      rw [readFieldsUnder]
      cases here : key.isPlain keyword with
      | true =>
          cases stored with
          | map fields => simp [Entries.table, Entries.get?, here, readFieldTable, readFields_eq_map]
          | _ => simp [Entries.table, Entries.get?, here, readFieldTable]
      | false =>
          have later : Entries.table ((key, stored) :: rest) keyword = Entries.table rest keyword := by
            simp [Entries.table, Entries.get?, here]
          simp only [Bool.false_eq_true, if_false, inRest, later]

theorem readVariantsUnder_eq_map (keyword : String) :
    readVariantsUnder limit path depth keyword entries =
      (entries.items keyword).zipIdx.map (readVariant limit path depth) := by
  induction entries with
  | nil =>
      rw [readVariantsUnder]
      rfl
  | cons entry rest inRest =>
      obtain ⟨key, stored⟩ := entry
      rw [readVariantsUnder]
      cases here : key.isPlain keyword with
      | true =>
          cases stored with
          | seq variants =>
              simp [Entries.items, Entries.get?, here, readVariantList, readVariants_eq_map]
          | _ => simp [Entries.items, Entries.get?, here, readVariantList]
      | false =>
          have later : Entries.items ((key, stored) :: rest) keyword = Entries.items rest keyword := by
            simp [Entries.items, Entries.get?, here]
          simp only [Bool.false_eq_true, if_false, inRest, later]

theorem read_map (shallow : depth ≤ limit) :
    read limit path depth (.map entries) =
      match Heading.read path entries with
      | .error error => .refused error
      | .ok heading => ofHeading limit path depth entries heading := by
  rw [read, if_neg (Nat.not_lt.mpr shallow)]
  cases Heading.read path entries with
  | error error => rfl
  | ok heading =>
      cases heading with
      | map keyword allowEmpty => simp only [readFieldsUnder_eq_map, ofHeading]
      | seq keyword matching => simp only [readVariantsUnder_eq_map, ofHeading]
      | _ => rfl

theorem labelOf_succeeds_iff (path : String) {name : String} {required : Option Bool} :
    (∃ label, labelOf path name required = .ok label) ↔
      ∀ source, name = patternMark ++ source →
        Grammar.IsPattern source ∧ required ≠ some true := by
  unfold labelOf
  simp only [← afterMark?_eq_some_iff]
  cases marked : afterMark? patternMark name with
  | none => simp
  | some source =>
      cases compiled : Pattern.compile? source with
      | none =>
          by_cases demanded : required = some true
          · simp [demanded, Heading.malformed]
          · simp [demanded, Heading.patternOf, compiled, Except.map, Grammar.IsPattern]
      | some pattern =>
          by_cases demanded : required = some true
          · simp [demanded, Heading.malformed]
          · simp [demanded, Heading.patternOf, compiled, Except.map, Grammar.IsPattern]

theorem requiredOf_succeeds_iff (path : String) {child : Value} :
    (∃ required, requiredOf path child = .ok required) ↔
      ∀ entries : Entries, child = .map entries → entries.Flagged "required" := by
  cases child with
  | map entries => simp [requiredOf, Heading.flag_succeeds_iff]
  | _ => simp [requiredOf]

theorem required_iff_of_requiredOf {child : Value} {required : Option Bool}
    (found : requiredOf path child = .ok required) :
    required = some true ↔
      ∃ entries : Entries, child = .map entries ∧
        entries.get? "required" = some (.bool true) := by
  cases child with
  | map entries =>
      rw [requiredOf, Heading.flag_eq_ok_iff] at found
      simp [found, Option.map_eq_some_iff]
  | _ =>
      cases found
      simp

theorem readField_sound_iff {field : Value × Value} {inner : Prop}
    (untagged : field.1.untagged = true)
    (ofChild : ∀ path, (read limit path (depth + 1) field.2).Sound ↔ inner) :
    ((readField limit path depth field).1.Sound ∧
        ∃ label, (readField limit path depth field).2 = .ok label) ↔
      Grammar.IsField field ∧ inner := by
  obtain ⟨key, child⟩ := field
  unfold readField
  cases text : key.text? with
  | none =>
      have notString := (Value.text?_eq_none_iff_of_untagged untagged).mp text
      simp only [not_sound_refused, false_and, false_iff, not_and]
      intro isField
      obtain ⟨name, named⟩ := isField.named
      exact absurd named (notString name)
  | some name =>
      obtain rfl := (Value.text?_eq_some_iff_of_untagged untagged).mp text
      cases demanded : requiredOf (path ++ "." ++ name) child with
      | error error =>
          simp only [demanded, not_sound_refused, false_and, false_iff, not_and]
          intro isField
          obtain ⟨required, found⟩ :=
            (requiredOf_succeeds_iff (path ++ "." ++ name)).mpr isField.flagged
          rw [demanded] at found
          cases found
      | ok required =>
          have flagged := (requiredOf_succeeds_iff _).mp ⟨required, demanded⟩
          have isDemanded := required_iff_of_requiredOf demanded
          simp only [demanded, ofChild, labelOf_succeeds_iff]
          constructor
          · intro ⟨sound, label⟩
            refine ⟨⟨⟨name, rfl⟩, flagged, fun source same => ?_⟩, sound⟩
            obtain ⟨isPattern, undemanded⟩ := label source (Value.string.inj same)
            exact ⟨isPattern, fun entries isMap found =>
              undemanded (isDemanded.mpr ⟨entries, isMap, found⟩)⟩
          · intro ⟨isField, sound⟩
            refine ⟨sound, fun source same => ?_⟩
            obtain ⟨isPattern, undemanded⟩ := isField.pattern source (congrArg Value.string same)
            refine ⟨isPattern, fun isTrue => ?_⟩
            obtain ⟨entries, isMap, found⟩ := isDemanded.mp isTrue
            exact undemanded entries isMap found

/-- The form that reading found is the only one. -/
theorem outline_of_read {outline : Outline} {heading : Heading}
    (untagged : (Value.map entries).untagged = true)
    (found : Heading.read path entries = .ok heading) (form : Grammar.Form entries outline) :
    outline = heading.outline entries := by
  have keyed := ((Heading.read_succeeds_iff path untagged).mp ⟨heading, found, rfl⟩).1
  obtain ⟨other, again, same⟩ := (Heading.read_succeeds_iff path untagged).mpr ⟨keyed, form⟩
  cases found.symm.trans again
  exact same.symm

theorem table_untagged (keyword : String)
    (untagged : (Value.map entries).untagged = true) :
    (Value.map (entries.table keyword)).untagged = true := by
  unfold Entries.table
  split
  · rename_i stored
    exact Entries.get?_untagged untagged stored
  · rfl

theorem items_untagged (keyword : String)
    (untagged : (Value.map entries).untagged = true) :
    (Value.seq (entries.items keyword)).untagged = true := by
  unfold Entries.items
  split
  · rename_i stored
    exact Entries.get?_untagged untagged stored
  · rfl

/-- A definition has no fault if its own layer has none and all definitions inside it have
none. -/
theorem read_sound_iff_layer {inner : Value → Prop} {value : Value} (shallow : depth ≤ limit)
    (untagged : value.untagged = true)
    (ofInner : ∀ path child, child.untagged = true →
      ((read limit path (depth + 1) child).Sound ↔ inner child)) :
    (read limit path depth value).Sound ↔ Grammar.Layer inner value := by
  cases value with
  | map entries =>
      rw [read_map shallow]
      cases found : Heading.read path entries with
      | error error =>
          simp only [not_sound_refused, false_iff]
          intro ⟨_, outline, same, keyed, form, _⟩
          cases same
          obtain ⟨heading, again, _⟩ := (Heading.read_succeeds_iff path untagged).mpr ⟨keyed, form⟩
          rw [found] at again
          cases again
      | ok heading =>
          obtain ⟨keyed, form⟩ := (Heading.read_succeeds_iff path untagged).mp ⟨heading, found, rfl⟩
          have layered : Grammar.Layer inner (.map entries) ↔
              Grammar.Within inner (heading.outline entries) := by
            constructor
            · intro ⟨_, outline, same, _, other, within⟩
              cases same
              rw [outline_of_read untagged found other] at within
              exact within
            · intro within
              exact ⟨entries, _, rfl, keyed, form, within⟩
          rw [layered]
          cases heading with
          | included name => exact ⟨fun _ => trivial, fun _ => .included name⟩
          | map keyword allowEmpty =>
              have members := Value.untagged_map_iff.mp (table_untagged keyword untagged)
              simp only [ofHeading, Heading.outline, Grammar.Within, sound_map_iff, List.forall_mem_map]
              refine forall₂_congr fun field member => ?_
              obtain ⟨keyUntagged, childUntagged⟩ := members field member
              exact readField_sound_iff keyUntagged fun path => ofInner path field.2 childUntagged
          | seq keyword matching =>
              have members := Value.untagged_seq_iff.mp (items_untagged keyword untagged)
              simp only [ofHeading, Heading.outline, Grammar.Within, sound_seq_iff, List.forall_mem_map]
              have each (indexed : Value × Nat)
                  (member : indexed ∈ (Entries.items entries keyword).zipIdx) :
                  (readVariant limit path depth indexed).Sound ↔ inner indexed.1 :=
                ofInner _ indexed.1 (members indexed.1 (List.fst_mem_of_mem_zipIdx member))
              rw [forall₂_congr each, ← List.forall_mem_map, List.zipIdx_map_fst]
          | scalar leaf => exact ⟨fun _ => trivial, fun _ => .scalar leaf⟩
  | _ =>
      rw [read, if_neg (Nat.not_lt.mpr shallow)]
      · simp [not_sound_refused, Grammar.Layer]
      · simp

theorem not_sound_of_lt (deep : limit < depth) (value : Value) :
    ¬ (read limit path depth value).Sound := by
  cases value <;> rw [read] <;> simp [deep, not_sound_refused]

/-- Reading finds no fault in exactly the definitions that are not too deep. -/
theorem read_sound_iff (room : Nat) {value : Value} (fits : depth + room = limit)
    (untagged : value.untagged = true) :
    (read limit path depth value).Sound ↔ Grammar.IsDefinition room value := by
  induction room generalizing depth path value with
  | zero =>
      refine read_sound_iff_layer (by omega) untagged fun path child _ => ?_
      simp only [iff_false]
      exact not_sound_of_lt (by omega) child
  | succ room inRoom =>
      refine read_sound_iff_layer (by omega) untagged fun path child childUntagged => ?_
      exact inRoom (by omega) childUntagged

theorem readField_of_sound {field : Value × Value}
    (sound : (readField limit path depth field).1.Sound) :
    ∃ childPath, (readField limit path depth field).1 =
      read limit childPath (depth + 1) field.2 := by
  unfold readField at sound ⊢
  cases text : field.1.text? with
  | none =>
      simp only [text] at sound
      exact absurd sound not_sound_refused
  | some name =>
      cases demanded : requiredOf (path ++ "." ++ name) field.2 with
      | error error =>
          simp only [text, demanded] at sound
          exact absurd sound not_sound_refused
      | ok required => exact ⟨path ++ "." ++ name, by simp only [demanded]⟩

theorem shallow_of_sound {value : Value} (sound : (read limit path depth value).Sound) :
    depth ≤ limit := by
  by_contra deep
  exact not_sound_of_lt (Nat.lt_of_not_le deep) value sound

/-- The includes of a faultless definition are those of its children. -/
theorem includes_ofHeading_iff {name : String} {heading : Heading} {inner : Value → Prop}
    (sound : (ofHeading limit path depth entries heading).Sound)
    (ofChild : ∀ child ∈ (heading.outline entries).children, ∀ childPath,
      (read limit childPath (depth + 1) child).Sound →
        ((read limit childPath (depth + 1) child).Includes name ↔ inner child)) :
    (ofHeading limit path depth entries heading).Includes name ↔
      heading.outline entries = .included name ∨
        ∃ child ∈ (heading.outline entries).children, inner child := by
  cases heading with
  | included target => simp [ofHeading, includes_included_iff, Heading.outline, Outline.children]
  | map keyword allowEmpty =>
      simp only [Heading.outline, Outline.children, List.mem_map, exists_exists_and_eq_and,
        forall_exists_index, and_imp, forall_apply_eq_imp_iff₂] at ofChild ⊢
      simp only [ofHeading, sound_map_iff, List.forall_mem_map] at sound
      simp only [ofHeading, includes_map_iff, List.mem_map, exists_exists_and_eq_and, reduceCtorEq,
        false_or]
      refine exists_congr fun field => and_congr_right fun member => ?_
      have childSound := (sound field member).1
      obtain ⟨childPath, same⟩ := readField_of_sound childSound
      rw [same] at childSound ⊢
      exact ofChild field member childPath childSound
  | seq keyword matching =>
      simp only [Heading.outline, Outline.children] at ofChild ⊢
      simp only [ofHeading, sound_seq_iff, List.forall_mem_map] at sound
      simp only [ofHeading, includes_seq_iff, List.mem_map, exists_exists_and_eq_and, reduceCtorEq,
        false_or]
      constructor
      · rintro ⟨indexed, member, includes⟩
        have inItems := List.fst_mem_of_mem_zipIdx member
        exact ⟨indexed.1, inItems, (ofChild _ inItems _ (sound indexed member)).mp includes⟩
      · rintro ⟨variant, member, below⟩
        obtain ⟨index, found⟩ := List.mem_iff_getElem?.mp member
        have indexed : (variant, index) ∈ (Entries.items entries keyword).zipIdx :=
          List.mem_zipIdx_iff_getElem?.mpr found
        exact ⟨(variant, index), indexed, (ofChild _ member _ (sound _ indexed)).mpr below⟩
  | scalar leaf => simp [ofHeading, not_includes_scalar, Heading.outline, Outline.children]

end Definition
end DocShape
