import DocShape.Proofs.Opening
import DocShape.Proofs.Plain
import DocShape.Proofs.Validation.Conformance

namespace DocShape

/-! Laws of plain documents, and the schema trees that demand them.

Each form of node demands a law put together from those that the nodes inside it demand, so
that what a tree says can be read off it piece by piece.
-/

namespace Value

def IsText (value : Value) : Prop := ∃ text, value = .string text

def IsFlag (value : Value) : Prop := ∃ flag, value = .bool flag

/-- A list in which every element is as the law says. -/
def IsListOf (law : Value → Prop) (value : Value) : Prop :=
  ∃ items, value = .seq items ∧ ∀ item ∈ items, law item

/-- A mapping whose entries together are as the law says. -/
def IsMappingWith (law : Entries → Prop) (value : Value) : Prop :=
  ∃ entries : Entries, value = .map entries ∧ law entries

def IsMapping : Value → Prop := IsMappingWith fun _ => True

end Value

namespace Node

variable {config : Config} {node : Node} {law : Value → Prop} {fields : List (Field Node)}

/-- A plain value conforms to the node exactly when it is as the law says. -/
def Demands (config : Config) (node : Node) (law : Value → Prop) : Prop :=
  ∀ value : Value, value.Plain → (Conforms config node value ↔ law value)

theorem Demands.congr (demands : Demands config node law) {other : Value → Prop}
    (same : ∀ value, law value ↔ other value) : Demands config node other :=
  fun value plain => (demands value plain).trans (same value)

theorem demands_anything : Demands config (.scalar (.ofKind .any)) fun _ => True := by
  intro value _
  simp [Conforms, Scalar.ofKind]

/-- A leaf without constraints asks for its kind only. -/
theorem admits_ofKind_iff {kind : Kind} {value : Value} :
    (Scalar.ofKind kind).Admits value ↔ kind.Has value := by
  constructor
  · exact Scalar.Admits.kind
  · intro has
    exact ⟨has, nofun, nofun, nofun, nofun⟩

/-- With the empty text forbidden it asks for that too. -/
theorem admits_filled_iff {kind : Kind} {value : Value} :
    Scalar.Admits { Scalar.ofKind kind with allowEmpty := false } value ↔
      kind.Has value ∧ value ≠ .string "" := by
  constructor
  · intro admits
    exact ⟨admits.kind, admits.nonEmpty rfl⟩
  · rintro ⟨has, filled⟩
    exact ⟨has, fun _ => filled, nofun, nofun, nofun⟩

/-- With a range, for a measure within it. -/
theorem admits_ranged_iff {kind : Kind} {range : Range} {value : Value} :
    Scalar.Admits { Scalar.ofKind kind with range := some range } value ↔
      kind.Has value ∧ ∀ measured, value.Measures measured → range.contains measured = true := by
  constructor
  · intro admits
    exact ⟨admits.kind, fun measured measures => admits.range range measured rfl measures⟩
  · rintro ⟨has, within⟩
    refine ⟨has, nofun, nofun, nofun, fun other measured same measures => ?_⟩
    cases same
    exact within measured measures

/-- With choices, for one of them. -/
theorem admits_listed_iff {kind : Kind} {choices : List Value} (present : choices ≠ [])
    {value : Value} :
    Scalar.Admits { Scalar.ofKind kind with allowed := choices } value ↔
      kind.Has value ∧ ∃ choice ∈ choices, value.same choice = true := by
  constructor
  · intro admits
    exact ⟨admits.kind, admits.allowed present⟩
  · intro chosen
    exact ⟨chosen.1, nofun, nofun, fun _ => chosen.2, nofun⟩

theorem demands_ofKind {kind : Kind} (typed : kind ≠ .any) :
    Demands config (.scalar (.ofKind kind)) kind.Has := by
  intro value plain
  rw [Conforms, admits_ofKind_iff, plain.content]
  exact or_iff_right typed

theorem demands_text : Demands config (.scalar (.ofKind .str)) Value.IsText := by
  refine (demands_ofKind (by decide : Kind.str ≠ .any)).congr fun value => ?_
  constructor
  · intro has
    cases has with
    | str text => exact ⟨text, rfl⟩
  · rintro ⟨text, rfl⟩
    exact .str text

theorem demands_flag : Demands config (.scalar (.ofKind .bool)) Value.IsFlag := by
  refine (demands_ofKind (by decide : Kind.bool ≠ .any)).congr fun value => ?_
  constructor
  · intro has
    cases has with
    | bool flag => exact ⟨flag, rfl⟩
  · rintro ⟨flag, rfl⟩
    exact .bool flag

theorem demands_seq_any {variants : List Node} {laws : List (Value → Prop)}
    (each : List.Forall₂ (Demands config) variants laws) :
    Demands config (.seq variants .any)
      (Value.IsListOf fun item => ∃ law ∈ laws, law item) := by
  intro value plain
  rw [Conforms, plain.content]
  refine exists_congr fun items => and_congr_right fun isSeq => ?_
  subst isSeq
  refine forall₂_congr fun item member => ?_
  have plainItem := plain.item member
  constructor
  · rintro ⟨variant, inVariants, conforms⟩
    obtain ⟨law, inLaws, demands⟩ := result_of_mem each inVariants
    exact ⟨law, inLaws, (demands item plainItem).mp conforms⟩
  · rintro ⟨law, inLaws, lawful⟩
    obtain ⟨variant, inVariants, demands⟩ := source_of_mem each inLaws
    exact ⟨variant, inVariants, (demands item plainItem).mpr lawful⟩

theorem demands_listOf (demands : Demands config node law) :
    Demands config (.seq [node] .any) (Value.IsListOf law) :=
  (demands_seq_any (.cons demands .nil)).congr fun value => by simp [Value.IsListOf]

theorem demands_listOfEither {left right : Node} {first second : Value → Prop}
    (ofLeft : Demands config left first) (ofRight : Demands config right second) :
    Demands config (.seq [left, right] .any)
      (Value.IsListOf fun item => first item ∨ second item) :=
  (demands_seq_any (.cons ofLeft (.cons ofRight .nil))).congr fun value => by
    simp [Value.IsListOf]

/-- Literal fields demand that the law holds for the entries of a mapping. -/
structure FieldsDemand (config : Config) (fields : List (Field Node)) (law : Entries → Prop) :
    Prop where
  literal : ∀ field ∈ fields, ∃ name, field.key = .literal name
  agrees : ∀ entries : Entries, (Value.map entries).Plain →
    ((∀ field ∈ fields, ∀ name, field.key = .literal name →
      (∀ stored, entries.Stores name stored → Conforms config field.node stored) ∧
        (field.required = true → ∃ stored, entries.Stores name stored)) ↔ law entries)

theorem fieldsDemand_nil : FieldsDemand config [] fun _ => True :=
  ⟨nofun, fun _ _ => by simp⟩

theorem FieldsDemand.congr {others same : Entries → Prop}
    (demand : FieldsDemand config fields others)
    (alike : ∀ entries, others entries ↔ same entries) : FieldsDemand config fields same :=
  ⟨demand.literal, fun entries plain => (demand.agrees entries plain).trans (alike entries)⟩

theorem stored_conforms_iff (demands : Demands config node law) {entries : Entries}
    (plain : (Value.map entries).Plain) {name : String} :
    (∀ stored, entries.Stores name stored → Conforms config node stored) ↔
      entries.Optional name law := by
  simp only [Entries.stores_iff_mem plain]
  exact forall₂_congr fun stored member => demands stored (plain.stored member)

theorem FieldsDemand.optional {name : String} {others : Entries → Prop}
    (demands : Demands config node law) (rest : FieldsDemand config fields others) :
    FieldsDemand config (⟨.literal name, false, node⟩ :: fields) fun entries =>
      entries.Optional name law ∧ others entries := by
  refine ⟨List.forall_mem_cons.mpr ⟨⟨name, rfl⟩, rest.literal⟩, fun entries plain => ?_⟩
  rw [List.forall_mem_cons, rest.agrees entries plain]
  simp only [FieldKey.literal.injEq, forall_eq', stored_conforms_iff demands plain,
    Bool.false_eq_true, false_implies, and_true]

theorem FieldsDemand.required {name : String} {others : Entries → Prop}
    (demands : Demands config node law) (rest : FieldsDemand config fields others) :
    FieldsDemand config (⟨.literal name, true, node⟩ :: fields) fun entries =>
      entries.Required name law ∧ others entries := by
  refine ⟨List.forall_mem_cons.mpr ⟨⟨name, rfl⟩, rest.literal⟩, fun entries plain => ?_⟩
  rw [List.forall_mem_cons, rest.agrees entries plain, Entries.required_iff plain]
  simp only [FieldKey.literal.injEq, forall_eq', stored_conforms_iff demands plain, forall_const]
  simp only [Entries.stores_iff_mem plain]

/-- Keys that no field names are tolerated. -/
theorem demands_tolerant {others : Entries → Prop} (demand : FieldsDemand config fields others) :
    Demands config (.map fields true) (Value.IsMappingWith others) := by
  intro value plain
  rw [Conforms, plain.content]
  refine exists_congr fun entries => and_congr_right fun isMap => ?_
  subst isMap
  rw [demand.agrees entries plain, and_iff_left_iff_imp]
  intro _ entry _ _
  refine ⟨fun field member governs => ?_, fun _ => rfl⟩
  obtain ⟨name, literal⟩ := demand.literal field member
  obtain ⟨_, _, _, ⟨pattern, isPattern, _⟩, _⟩ := governs
  rw [literal] at isPattern
  cases isPattern

/-- Every key has to be the name of a field. -/
theorem demands_strict {others : Entries → Prop} (demand : FieldsDemand config fields others) :
    Demands config (.map fields false) (Value.IsMappingWith fun entries =>
      others entries ∧ ∀ entry ∈ entries, ∃ field ∈ fields, ∃ name,
        field.key = .literal name ∧ entry.1 = .string name) := by
  intro value plain
  rw [Conforms, plain.content]
  refine exists_congr fun entries => and_congr_right fun isMap => ?_
  subst isMap
  rw [demand.agrees entries plain]
  refine and_congr_right fun _ => forall₂_congr fun entry member => ?_
  have unmatched (field : Field Node) (inFields : field ∈ fields) (text : String) :
      ¬ field.Matches text := by
    rintro ⟨pattern, isPattern, _⟩
    obtain ⟨name, literal⟩ := demand.literal field inFields
    rw [literal] at isPattern
    cases isPattern
  have claimed : Claimed fields entry.1 ↔ ∃ field ∈ fields, ∃ name,
      field.key = .literal name ∧ entry.1 = .string name := by
    rw [Claimed, (plain.key member).content]
  rw [← claimed]
  constructor
  · intro each
    by_contra unclaimed
    cases (each unclaimed).2 fun field inFields => unmatched field inFields _
  · intro isClaimed unclaimed
    exact absurd isClaimed unclaimed

/-- One field for all keys of a pattern: every key has to match. -/
theorem demands_matching {pattern : Pattern} {named : String → Prop} {required : Bool}
    (matching : ∀ text, pattern.isMatch text = true ↔ named text)
    (demands : Demands config node law) :
    Demands config (.map [⟨.pattern pattern, required, node⟩] false)
      (Value.IsMappingWith fun entries =>
        ∀ entry ∈ entries, named entry.1.keyText ∧ law entry.2) := by
  intro value plain
  rw [Conforms, plain.content]
  refine exists_congr fun entries => and_congr_right fun isMap => ?_
  subst isMap
  have isMatch (text : String) :
      Field.Matches (⟨.pattern pattern, required, node⟩ : Field Node) text ↔ named text := by
    simp [Field.Matches, matching]
  have governs (text : String) :
      Field.Governs (⟨.pattern pattern, required, node⟩ : Field Node) config.patternMatch
        [⟨.pattern pattern, required, node⟩] text ↔ named text := by
    rw [← isMatch]
    constructor
    · rintro ⟨_, _, _, matched, _⟩
      exact matched
    · intro matched
      exact ⟨[], [], rfl, matched, by simp⟩
  have unclaimed (key : Value) :
      ¬ Claimed [(⟨.pattern pattern, required, node⟩ : Field Node)] key := by
    simp [Claimed]
  simp only [List.forall_mem_singleton, reduceCtorEq, false_implies, implies_true, true_and,
    unclaimed, not_false_eq_true, forall_const, governs, isMatch]
  refine forall₂_congr fun entry member => ?_
  have stored := demands entry.2 (plain.stored member)
  constructor
  · rintro ⟨conforms, matched⟩
    have isNamed : named entry.1.keyText := by
      by_contra unnamed
      cases matched unnamed
    exact ⟨isNamed, stored.mp (conforms isNamed)⟩
  · rintro ⟨isNamed, lawful⟩
    exact ⟨fun _ => stored.mpr lawful, fun unnamed => absurd isNamed unnamed⟩

theorem demands_included {name : String} (demands : Demands config node law) :
    Demands config (.included name node) law := by
  intro value plain
  rw [Conforms]
  exact demands value plain

end Node
end DocShape
