import DocShape.Proofs.Lookup
import DocShape.Proofs.Tree
import DocShape.Proofs.Validation.Outcomes
import DocShape.Schema

namespace DocShape

/-! Conformance of a document to a schema tree, said without paths and without collecting
anything, and its agreement with validation: nothing is reported exactly when the document
conforms.
-/

namespace Field

/-- The field has a pattern, and keys of this text match it. -/
def Matches (field : Field Node) (text : String) : Prop :=
  ∃ pattern, field.key = .pattern pattern ∧ pattern.isMatch text = true

/-- The field decides about keys of this text: it matches them, and where only the first
matching field counts none in front of it does. -/
def Governs (field : Field Node) (policy : PatternMatch) (fields : List (Field Node))
    (text : String) : Prop :=
  ∃ before after, fields = before ++ field :: after ∧ field.Matches text ∧
    (policy = .first → ∀ earlier ∈ before, ¬ earlier.Matches text)

theorem Governs.mem {field : Field Node} {policy : PatternMatch} {fields : List (Field Node)}
    {text : String} (governs : field.Governs policy fields text) : field ∈ fields := by
  obtain ⟨before, after, split, _⟩ := governs
  simp [split]

end Field

/-- The key is the name of a literal field below its tags. -/
def Claimed (fields : List (Field Node)) (key : Value) : Prop :=
  ∃ field ∈ fields, ∃ name, field.key = .literal name ∧ key.content = .string name

/-- The values of a kind that asks for one. -/
inductive Kind.Has : Kind → Value → Prop where
  | str (text : String) : Has .str (.string text)
  | bool (flag : Bool) : Has .bool (.bool flag)
  | whole (number : Int) : Has .number (.int number)
  | decimal (number : Binary64) : Has .number (.float number)
  | int (number : Int) : Has .int (.int number)
  | float (number : Binary64) : Has .float (.float number)

theorem Kind.Has.content {kind : Kind} {value : Value} (has : kind.Has value) :
    value.content = value := by
  cases has <;> rfl

/-- What a range bounds: a number itself, and the length of a string. -/
inductive Value.Measures : Value → Binary64 → Prop where
  | int (number : Int) : Measures (.int number) (.ofInt number)
  | float (number : Binary64) : Measures (.float number) number
  | length (text : String) : Measures (.string text) (.ofNat text.length)

/-- An untagged value meets every constraint of a leaf. -/
structure Scalar.Admits (leaf : Scalar) (value : Value) : Prop where
  kind : leaf.kind.Has value
  nonEmpty : leaf.allowEmpty = false → value ≠ .string ""
  pattern : ∀ pattern text, leaf.pattern = some pattern → value = .string text →
    pattern.isMatch text = true
  allowed : leaf.allowed ≠ [] → ∃ choice ∈ leaf.allowed, value.same choice = true
  range : ∀ range measured, leaf.range = some range → value.Measures measured →
    range.contains measured = true

def Conforms (config : Config) : Node → Value → Prop
  | .map fields allowEmpty, value =>
      ∃ entries : Entries, value.content = .map entries ∧
        (∀ field ∈ fields, ∀ name, field.key = .literal name →
          (∀ stored, entries.Stores name stored → Conforms config field.node stored) ∧
          (field.required = true → ∃ stored, entries.Stores name stored)) ∧
        ∀ entry ∈ entries, ¬ Claimed fields entry.1 →
          (∀ field ∈ fields, field.Governs config.patternMatch fields entry.1.keyText →
            Conforms config field.node entry.2) ∧
          ((∀ field ∈ fields, ¬ field.Matches entry.1.keyText) → allowEmpty = true)
  | .seq variants .any, value =>
      ∃ items, value.content = .seq items ∧
        ∀ item ∈ items, ∃ variant, ∃ _ : variant ∈ variants, Conforms config variant item
  | .seq variants .all, value =>
      ∃ items, value.content = .seq items ∧
        ∀ item ∈ items, ∀ variant ∈ variants, Conforms config variant item
  | .scalar leaf, value => leaf.kind = .any ∨ leaf.Admits value.content
  | .included _ target, value => Conforms config target value
termination_by node => sizeOf node
decreasing_by
  · have smaller := Node.sizeOf_field_lt ‹field ∈ fields›
    rw [Node.map.sizeOf_spec]
    omega
  · have smaller := Node.sizeOf_field_lt ‹field ∈ fields›
    rw [Node.map.sizeOf_spec]
    omega
  · have smaller := List.sizeOf_lt_of_mem ‹variant ∈ variants›
    rw [Node.seq.sizeOf_spec]
    omega
  · have smaller := List.sizeOf_lt_of_mem ‹variant ∈ variants›
    rw [Node.seq.sizeOf_spec]
    omega
  · rw [Node.included.sizeOf_spec]
    omega

namespace Validation

variable {config : Config} {path : DocPath} {entries : Entries} {fields : List (Field Node)}

theorem selects_iff {text : String} {field : Field Node} :
    selects text field = true ↔ field.Matches text := by
  obtain ⟨key, _, _⟩ := field
  cases key <;> simp [selects, Field.Matches, FieldKey.pattern?]

theorem claims_iff {key : Value} : claims fields key = true ↔ Claimed fields key := by
  have literal (field : Field Node) (name : String) :
      field.key.literal? = some name ↔ field.key = .literal name := by
    cases field.key <;> simp [FieldKey.literal?]
  unfold claims Claimed
  cases content : key.content <;> simp [Node.hasLiteral, literal]

theorem mem_applicable_iff {policy : PatternMatch} {text : String} {field : Field Node} :
    field ∈ applicable policy text fields ↔ field.Governs policy fields text := by
  cases policy with
  | first =>
      simp only [applicable, Option.mem_toList, List.find?_eq_some_iff_append,
        Bool.not_eq_true', ← Bool.not_eq_true, selects_iff, Field.Governs, forall_const]
      constructor
      · rintro ⟨matched, before, after, split, unmatched⟩
        exact ⟨before, after, split, matched, unmatched⟩
      · rintro ⟨before, after, split, matched, unmatched⟩
        exact ⟨matched, before, after, split, unmatched⟩
  | all =>
      simp only [applicable, List.mem_filter, selects_iff, Field.Governs, reduceCtorEq,
        false_implies, and_true]
      constructor
      · rintro ⟨member, matched⟩
        obtain ⟨before, after, split⟩ := List.append_of_mem member
        exact ⟨before, after, split, matched⟩
      · rintro ⟨before, after, split, matched⟩
        exact ⟨by simp [split], matched⟩

theorem applicable_eq_nil_iff {policy : PatternMatch} {text : String} :
    applicable policy text fields = [] ↔ ∀ field ∈ fields, ¬ field.Matches text := by
  cases policy <;> simp [applicable, ← selects_iff]

theorem unclaimedViolations_eq_nil_iff {allowEmpty : Bool} {text : String}
    {outcomes : List (List Violation)} :
    unclaimedViolations path fields allowEmpty text outcomes = [] ↔
      (∀ outcome ∈ outcomes, outcome = []) ∧ (outcomes = [] → allowEmpty = true) := by
  unfold unclaimedViolations
  cases outcomes <;> cases allowEmpty <;> simp

/-- One shape or every shape, as the rule asks, leaves nothing to report. -/
def Passes (outcomes : List (List Violation)) : Matching → Prop
  | .any => ∃ outcome ∈ outcomes, outcome = []
  | .all => ∀ outcome ∈ outcomes, outcome = []

/-- An element of a sequence without shapes always passes. -/
theorem elementViolations_eq_nil_iff {variants : List Node} {matching : Matching} {item : Value}
    {outcomes : List (List Violation)} :
    elementViolations config path variants matching item outcomes = [] ↔
      outcomes = [] ∨ Passes outcomes matching := by
  have passes : elementViolations config path variants matching item outcomes = [] ↔
      causes? config.elementReport matching outcomes = none := by
    unfold elementViolations
    cases causes? config.elementReport matching outcomes <;> simp
  rw [passes]
  unfold causes?
  by_cases failing : ∃ outcome ∈ outcomes, outcome ≠ []
  · have present : outcomes ≠ [] := by
      rintro rfl
      simp at failing
    have failures : (outcomes.filter fun outcome => !outcome.isEmpty).isEmpty = false := by
      simpa using failing
    cases matching with
    | any => cases config.elementReport <;> simp [failures, Passes, present]
    | all => cases config.elementReport <;> simpa [failures, Passes, present] using failing
  · have clean : ∀ outcome ∈ outcomes, outcome = [] := by
      simpa using failing
    have failures : (outcomes.filter fun outcome => !outcome.isEmpty).isEmpty = true := by
      simpa using clean
    simp only [failures, Bool.true_or, if_true, true_iff]
    cases outcomes with
    | nil => exact .inl rfl
    | cons first rest =>
        cases matching with
        | any => exact .inr ⟨first, by simp, clean first (by simp)⟩
        | all => exact .inr clean

theorem kindMatches_iff {kind : Kind} {value : Value} (typed : kind ≠ .any) :
    kindMatches kind value = true ↔ kind.Has value := by
  constructor
  · intro matched
    cases kind <;> cases value <;> first | contradiction | constructor
  · intro has
    cases has <;> rfl

theorem measure?_iff {value : Value} {measured : Binary64} :
    (∃ label, measure? value = some (measured, label)) ↔ value.Measures measured := by
  constructor
  · rintro ⟨label, found⟩
    cases value <;> simp only [measure?, Option.some.injEq, Prod.mk.injEq, reduceCtorEq] at found
    all_goals
      obtain ⟨rfl, _⟩ := found
      constructor
  · intro measures
    cases measures <;> exact ⟨_, rfl⟩

theorem emptiness_eq_nil_iff {leaf : Scalar} {value : Value} :
    emptiness path leaf value = [] ↔ (leaf.allowEmpty = false → value ≠ .string "") := by
  cases value with
  | string text => cases allowed : leaf.allowEmpty <;> simp [emptiness, allowed]
  | _ => simp [emptiness]

theorem patternFault_eq_nil_iff {leaf : Scalar} {value : Value} :
    patternFault path leaf value = [] ↔
      ∀ pattern text, leaf.pattern = some pattern → value = .string text →
        pattern.isMatch text = true := by
  cases value with
  | string text =>
      cases given : leaf.pattern with
      | none => simp [patternFault, given]
      | some pattern => cases found : pattern.isMatch text <;> simp [patternFault, given, found]
  | _ => simp [patternFault]

theorem allowedFault_eq_nil_iff {leaf : Scalar} {value : Value} :
    allowedFault path leaf value = [] ↔
      (leaf.allowed ≠ [] → ∃ choice ∈ leaf.allowed, value.same choice = true) := by
  unfold allowedFault
  cases leaf.allowed with
  | nil => simp
  | cons first rest =>
      cases same : (first :: rest).any value.same <;> simp_all

theorem rangeFault_eq_nil_iff {leaf : Scalar} {value : Value} :
    rangeFault path leaf value = [] ↔
      ∀ range measured, leaf.range = some range → value.Measures measured →
        range.contains measured = true := by
  simp only [← measure?_iff]
  unfold rangeFault
  cases leaf.range with
  | none => simp
  | some range =>
      cases measure? value with
      | none => simp
      | some found =>
          obtain ⟨measured, label⟩ := found
          cases range.contains measured <;> simp_all

theorem scalarViolations_eq_nil_iff {leaf : Scalar} {value : Value} :
    scalarViolations path leaf value = [] ↔ leaf.kind = .any ∨ leaf.Admits value := by
  unfold scalarViolations
  by_cases anything : leaf.kind = .any
  · simp [anything]
  · cases matched : kindMatches leaf.kind value with
    | false =>
        have refused : ¬ leaf.Admits value := by
          intro admitted
          rw [(kindMatches_iff anything).mpr admitted.kind] at matched
          contradiction
        simp [anything, refused]
    | true =>
        have has := (kindMatches_iff anything).mp matched
        simp only [anything, if_false, if_true, false_or, List.append_eq_nil_iff,
          emptiness_eq_nil_iff, patternFault_eq_nil_iff, allowedFault_eq_nil_iff,
          rangeFault_eq_nil_iff]
        constructor
        · rintro ⟨⟨⟨nonEmpty, pattern⟩, allowed⟩, range⟩
          exact ⟨has, nonEmpty, pattern, allowed, range⟩
        · rintro ⟨_, nonEmpty, pattern, allowed, range⟩
          exact ⟨⟨⟨nonEmpty, pattern⟩, allowed⟩, range⟩

/-- A field adds nothing if what stands under its name passes and, where it is required,
something does stand there. -/
theorem literalViolations_eq_nil_iff {field : Field Node} :
    literalViolations config path entries field = [] ↔
      ∀ name, field.key = .literal name →
        (∀ stored, entries.Stores name stored →
          check config (path ++ [.key name]) field.node stored = []) ∧
        (field.required = true → ∃ stored, entries.Stores name stored) := by
  unfold literalViolations
  cases key : field.key with
  | pattern pattern => simp [FieldKey.literal?]
  | literal name =>
      simp only [FieldKey.literal?, FieldKey.literal.injEq, forall_eq', ← literalValue?_eq_some_iff]
      cases literalValue? entries name with
      | some found => simp
      | none => cases field.required <;> simp

theorem patternViolations_eq_nil_iff {allowEmpty : Bool} {entry : Value × Value} :
    patternViolations config path fields allowEmpty entry = [] ↔
      (∀ field ∈ fields, field.Governs config.patternMatch fields entry.1.keyText →
        check config (path ++ [.key entry.1.keyText]) field.node entry.2 = []) ∧
      ((∀ field ∈ fields, ¬ field.Matches entry.1.keyText) → allowEmpty = true) := by
  unfold patternViolations
  simp only [unclaimedViolations_eq_nil_iff, List.map_eq_nil_iff, applicable_eq_nil_iff,
    List.forall_mem_map, mem_applicable_iff]
  refine and_congr_left fun _ => ?_
  constructor
  · intro each field _ governs
    exact each field governs
  · intro each field governs
    exact each field governs.mem governs

theorem flatMap_zipIdx_eq_nil_iff {items : List Value}
    {found : Value × Nat → List Violation} :
    items.zipIdx.flatMap found = [] ↔ ∀ item index, items[index]? = some item →
      found (item, index) = [] := by
  simp only [List.flatMap_eq_nil_iff, Prod.forall, List.mem_zipIdx_iff_getElem?]

theorem check_seq_eq_nil_iff_passes {variants : List Node} {matching : Matching} {value : Value}
    {items : List Value} (sequence : value.content = .seq items) :
    check config path (.seq variants matching) value = [] ↔
      variants = [] ∨ ∀ item index, items[index]? = some item →
        Passes (variants.map fun variant => check config (path ++ [.index index]) variant item)
          matching := by
  by_cases single : variants.length = 1
  · obtain ⟨only, rfl⟩ := List.length_eq_one_iff.mp single
    rw [check_seq_one sequence, flatMap_zipIdx_eq_nil_iff]
    cases matching <;> simp [Passes]
  · rw [check_seq_several single sequence, flatMap_zipIdx_eq_nil_iff]
    simp only [elementViolations_eq_nil_iff, List.map_eq_nil_iff]
    by_cases none : variants = [] <;> simp [none]

/-- Nothing is reported about a value, wherever it stands, exactly when it conforms. -/
def Agrees (config : Config) (node : Node) : Prop :=
  ∀ path value, check config path node value = [] ↔ Conforms config node value

theorem map_agrees {allowEmpty : Bool} (below : ∀ field ∈ fields, Agrees config field.node) :
    Agrees config (.map fields allowEmpty) := by
  intro path value
  rw [Conforms]
  by_cases mapping : ∃ entries : Entries, value.content = .map entries
  · obtain ⟨entries, mapping⟩ := mapping
    have literal : fields.flatMap (literalViolations config path entries) = [] ↔
        ∀ field ∈ fields, ∀ name, field.key = .literal name →
          (∀ stored, entries.Stores name stored → Conforms config field.node stored) ∧
          (field.required = true → ∃ stored, entries.Stores name stored) := by
      simp only [List.flatMap_eq_nil_iff, literalViolations_eq_nil_iff]
      refine forall₂_congr fun field member => ?_
      simp only [below field member _ _]
    have remaining (entry : Value × Value) :
        (if claims fields entry.1 then []
          else patternViolations config path fields allowEmpty entry) = [] ↔
        (¬ Claimed fields entry.1 →
          (∀ field ∈ fields, field.Governs config.patternMatch fields entry.1.keyText →
            Conforms config field.node entry.2) ∧
          ((∀ field ∈ fields, ¬ field.Matches entry.1.keyText) → allowEmpty = true)) := by
      rw [← claims_iff]
      by_cases claimed : claims fields entry.1
      · simp [claimed]
      · simp only [claimed, Bool.false_eq_true, if_false, not_false_eq_true, forall_const,
          patternViolations_eq_nil_iff]
        refine and_congr_left fun _ => forall₂_congr fun field member => ?_
        rw [below field member _ _]
    rw [check_map mapping, List.append_eq_nil_iff, literal, List.flatMap_eq_nil_iff]
    simp only [remaining, mapping, Value.map.injEq, exists_eq_left']
  · rw [check_map_of_not_map (not_exists.mp mapping)]
    simp only [List.cons_ne_nil, false_iff]
    intro ⟨entries, content, _⟩
    exact mapping ⟨entries, content⟩

theorem seq_of_conforms {variants : List Node} {matching : Matching} {value : Value}
    (conforms : Conforms config (.seq variants matching) value) :
    ∃ items, value.content = .seq items := by
  cases matching with
  | any =>
      rw [Conforms] at conforms
      obtain ⟨items, content, _⟩ := conforms
      exact ⟨items, content⟩
  | all =>
      rw [Conforms] at conforms
      obtain ⟨items, content, _⟩ := conforms
      exact ⟨items, content⟩

theorem seq_agrees {variants : List Node} {matching : Matching} (present : variants ≠ [])
    (below : ∀ variant ∈ variants, Agrees config variant) :
    Agrees config (.seq variants matching) := by
  intro path value
  by_cases sequence : ∃ items, value.content = .seq items
  · obtain ⟨items, sequence⟩ := sequence
    simp only [check_seq_eq_nil_iff_passes sequence, present, false_or]
    cases matching with
    | any =>
        rw [Conforms]
        simp only [Passes, sequence, Value.seq.injEq, exists_eq_left', List.mem_map]
        constructor
        · intro each item member
          obtain ⟨index, found⟩ := List.getElem?_of_mem member
          obtain ⟨_, ⟨variant, inVariants, rfl⟩, clean⟩ := each item index found
          exact ⟨variant, inVariants, (below variant inVariants _ item).mp clean⟩
        · intro each item index found
          obtain ⟨variant, inVariants, conforms⟩ := each item (List.mem_of_getElem? found)
          exact ⟨_, ⟨variant, inVariants, rfl⟩, (below variant inVariants _ item).mpr conforms⟩
    | all =>
        rw [Conforms]
        simp only [Passes, sequence, Value.seq.injEq, exists_eq_left', List.forall_mem_map]
        constructor
        · intro each item member variant inVariants
          obtain ⟨index, found⟩ := List.getElem?_of_mem member
          exact (below variant inVariants _ item).mp (each item index found variant inVariants)
        · intro each item index found variant inVariants
          exact (below variant inVariants _ item).mpr
            (each item (List.mem_of_getElem? found) variant inVariants)
  · rw [check_seq_of_not_seq (not_exists.mp sequence)]
    simp only [List.cons_ne_nil, false_iff]
    intro conforms
    exact sequence (seq_of_conforms conforms)

theorem agrees_of_varied {node : Node} (varied : node.Varied) : Agrees config node := by
  induction node using Node.induction with
  | map fields allowEmpty ofField =>
      cases varied with
      | map below => exact map_agrees fun field member => ofField field member (below field member)
  | seq variants matching ofVariant =>
      cases varied with
      | seq present below =>
          exact seq_agrees present fun variant member =>
            ofVariant variant member (below variant member)
  | scalar leaf =>
      intro path value
      rw [check_scalar, scalarViolations_eq_nil_iff, Conforms]
  | included name target ofTarget =>
      cases varied with
      | included below =>
          intro path value
          rw [check_included, Conforms]
          exact ofTarget below path value

end Validation

/-- A schema whose sequences all have shapes for their elements reports nothing about a
document exactly when the document conforms to it. -/
theorem Schema.validate_eq_nil_iff_conforms (schema : Schema) (varied : schema.root.Varied)
    (document : Value) :
    schema.validate document = [] ↔ Conforms schema.config schema.root document :=
  Validation.agrees_of_varied varied [] document

/-- A list of names and numbers under a tagged key. -/
theorem Schema.validate_eq_nil_iff_conforms_tagged :
    let names : Node := .seq [.scalar (.ofKind .str), .scalar (.ofKind .int)] .any
    let schema := Schema.ofNode (.map [⟨.literal "names", true, names⟩] false)
    let document : Value :=
      .map [(.tagged "!mark" (.string "names"), .seq [.string "one", .tagged "!two" (.int 2)])]
    schema.root.Varied ∧ Conforms schema.config schema.root document := by
  have varied : Node.Varied (.map [⟨.literal "names", true,
      .seq [.scalar (.ofKind .str), .scalar (.ofKind .int)] .any⟩] false) := by
    refine .map fun field member => ?_
    cases List.mem_singleton.mp member
    refine .seq (by simp) fun variant member => ?_
    simp only [List.mem_cons, List.not_mem_nil, or_false] at member
    rcases member with rfl | rfl
    · exact .scalar _
    · exact .scalar _
  exact ⟨varied, (validate_eq_nil_iff_conforms _ varied _).mp rfl⟩

end DocShape
