import DocShape.Proofs.Opening
import DocShape.Proofs.Validation.Conformance
import Mathlib.Logic.Relation

namespace DocShape

/-! Edits after which a schema asks for no more than before.

Every single edit keeps what passes, and so does any number of them.  On the way from one
tree to another there can be sequences without shapes for their elements, where validation
takes any element, and a shape that such a sequence is then given asks for more.  The edits
are therefore followed with a notion of passing that takes no element there.  It agrees with
validation at both ends, where every sequence has shapes.
-/

/-- One edit of a leaf after which it asks for no more. -/
inductive Scalar.Loosened : Scalar → Scalar → Prop where
  | range (leaf : Scalar) : Loosened leaf { leaf with range := none }
  | allowed (leaf : Scalar) : Loosened leaf { leaf with allowed := [] }
  | pattern (leaf : Scalar) : Loosened leaf { leaf with pattern := none }
  | emptiness (leaf : Scalar) : Loosened leaf { leaf with allowEmpty := true }
  | number {leaf : Scalar} (numeric : leaf.kind = .int ∨ leaf.kind = .float) :
      Loosened leaf { leaf with kind := .number }
  | any (leaf : Scalar) : Loosened leaf { leaf with kind := .any }

/-- One edit somewhere in a tree, also below includes, after which it asks for no more. -/
inductive Node.Loosened : Node → Node → Prop where
  | optional {front rest : List (Field Node)} {key : FieldKey} {node : Node} {allowEmpty : Bool} :
      Loosened (.map (front ++ ⟨key, true, node⟩ :: rest) allowEmpty)
        (.map (front ++ ⟨key, false, node⟩ :: rest) allowEmpty)
  | tolerant {fields : List (Field Node)} {allowEmpty : Bool} :
      Loosened (.map fields allowEmpty) (.map fields true)
  | leaf {strict loose : Scalar} (loosened : strict.Loosened loose) :
      Loosened (.scalar strict) (.scalar loose)
  | added {variants more : List Node} (kept : variants.Sublist more) :
      Loosened (.seq variants .any) (.seq more .any)
  | removed {variants fewer : List Node} (kept : fewer.Sublist variants) (left : fewer ≠ []) :
      Loosened (.seq variants .all) (.seq fewer .all)
  | anyInstead {variants : List Node} : Loosened (.seq variants .all) (.seq variants .any)
  | field {front rest : List (Field Node)} {key : FieldKey} {required allowEmpty : Bool}
      {strict loose : Node} (below : Loosened strict loose) :
      Loosened (.map (front ++ ⟨key, required, strict⟩ :: rest) allowEmpty)
        (.map (front ++ ⟨key, required, loose⟩ :: rest) allowEmpty)
  | variant {front rest : List Node} {matching : Matching} {strict loose : Node}
      (below : Loosened strict loose) :
      Loosened (.seq (front ++ strict :: rest) matching) (.seq (front ++ loose :: rest) matching)
  | target {name : String} {strict loose : Node} (below : Loosened strict loose) :
      Loosened (.included name strict) (.included name loose)

namespace Validation

mutual

/-- A value passes, where an element of a sequence without shapes does not. -/
inductive Takes (config : Config) : Node → Value → Prop where
  | map {fields : List (Field Node)} {allowEmpty : Bool} {value : Value} {entries : Entries}
      (isMap : value.content = .map entries)
      (literal : ∀ field ∈ fields, ∀ name, field.key = .literal name →
        ∀ stored, entries.Stores name stored → Takes config field.node stored)
      (present : ∀ field ∈ fields, ∀ name, field.key = .literal name →
        field.required = true → ∃ stored, entries.Stores name stored)
      (matched : ∀ entry ∈ entries, ¬ Claimed fields entry.1 →
        ∀ field ∈ applicable config.patternMatch entry.1.keyText fields,
          Takes config field.node entry.2)
      (known : ∀ entry ∈ entries, ¬ Claimed fields entry.1 →
        applicable config.patternMatch entry.1.keyText fields = [] → allowEmpty = true) :
      Takes config (.map fields allowEmpty) value
  | seq {variants : List Node} {matching : Matching} {value : Value} {items : List Value}
      (isSeq : value.content = .seq items)
      (each : ∀ item ∈ items, TakesElement config variants matching item) :
      Takes config (.seq variants matching) value
  | scalar {leaf : Scalar} {value : Value}
      (admits : leaf.kind = .any ∨ leaf.Admits value.content) : Takes config (.scalar leaf) value
  | included {name : String} {target : Node} {value : Value} (takes : Takes config target value) :
      Takes config (.included name target) value

/-- An element has one of the shapes or all of them, of which there is one. -/
inductive TakesElement (config : Config) : List Node → Matching → Value → Prop where
  | any {variants : List Node} {variant : Node} {item : Value} (member : variant ∈ variants)
      (takes : Takes config variant item) : TakesElement config variants .any item
  | all {variants : List Node} {item : Value} (present : variants ≠ [])
      (each : ∀ variant ∈ variants, Takes config variant item) :
      TakesElement config variants .all item

end

variable {config : Config} {fields others : List (Field Node)} {allowEmpty tolerant : Bool}
  {variants more fewer : List Node} {matching : Matching} {item value : Value}

/-- A field under the key of another asks for no more than it. -/
structure Looser (config : Config) (strict loose : Field Node) : Prop where
  key : strict.key = loose.key
  required : loose.required = true → strict.required = true
  takes : ∀ value, Takes config strict.node value → Takes config loose.node value

theorem Looser.refl (field : Field Node) : Looser config field field :=
  ⟨rfl, id, fun _ => id⟩

theorem applicable_paired {related : Field Node → Field Node → Prop}
    (each : List.Forall₂ related fields others)
    (keys : ∀ field other, related field other → field.key = other.key)
    (policy : PatternMatch) (text : String) :
    List.Forall₂ related (applicable policy text fields) (applicable policy text others) := by
  have selected : List.Forall₂ related (fields.filter (selects text))
      (others.filter (selects text)) := by
    refine List.rel_filter (fun field other paired => ?_) each
    simp only [selects, keys field other paired]
  cases policy with
  | all => exact selected
  | first =>
      simp only [applicable, ← List.head?_filter, ← List.take_one]
      exact List.forall₂_take 1 selected

theorem claimed_of_looser (each : List.Forall₂ (Looser config) fields others) {key : Value}
    (claimed : Claimed fields key) : Claimed others key := by
  obtain ⟨field, member, name, isLiteral, spelled⟩ := claimed
  obtain ⟨other, inOthers, looser⟩ := result_of_mem each member
  exact ⟨other, inOthers, name, looser.key ▸ isLiteral, spelled⟩

/-- A map goes on to take what it took if each of its fields asks for no more than before. -/
theorem takes_map_of_looser (each : List.Forall₂ (Looser config) fields others)
    (tolerates : allowEmpty = true → tolerant = true)
    (takes : Takes config (.map fields allowEmpty) value) :
    Takes config (.map others tolerant) value := by
  cases takes with
  | map isMap literal present matched known =>
      have applies := applicable_paired each (fun _ _ looser => looser.key) config.patternMatch
      have unclaimed {key : Value} (free : ¬ Claimed others key) : ¬ Claimed fields key :=
        mt (claimed_of_looser each) free
      refine .map isMap ?_ ?_ ?_ ?_
      · intro other inOthers name isLiteral stored stores
        obtain ⟨field, member, looser⟩ := source_of_mem each inOthers
        exact looser.takes stored
          (literal field member name (looser.key.trans isLiteral) stored stores)
      · intro other inOthers name isLiteral required
        obtain ⟨field, member, looser⟩ := source_of_mem each inOthers
        exact present field member name (looser.key.trans isLiteral) (looser.required required)
      · intro entry member free other inOthers
        obtain ⟨field, inFields, looser⟩ := source_of_mem (applies entry.1.keyText) inOthers
        exact looser.takes entry.2 (matched entry member (unclaimed free) field inFields)
      · intro entry member free none
        have noneBefore := applies entry.1.keyText
        rw [none, List.forall₂_nil_right_iff] at noneBefore
        exact tolerates (known entry member (unclaimed free) noneBefore)

theorem takes_seq_of_element {rule : Matching}
    (each : ∀ item, TakesElement config variants matching item →
      TakesElement config more rule item)
    (takes : Takes config (.seq variants matching) value) :
    Takes config (.seq more rule) value := by
  cases takes with
  | seq isSeq elements =>
      exact .seq isSeq fun item member => each item (elements item member)

theorem takesElement_replaced {front rest : List Node} {strict loose : Node}
    (looser : ∀ value, Takes config strict value → Takes config loose value)
    (takes : TakesElement config (front ++ strict :: rest) matching item) :
    TakesElement config (front ++ loose :: rest) matching item := by
  have paired : List.Forall₂
      (fun before after => ∀ value, Takes config before value → Takes config after value)
      (front ++ strict :: rest) (front ++ loose :: rest) :=
    forall₂_replaced (fun _ _ => id) looser
  cases takes with
  | any member takes =>
      obtain ⟨after, inPlace, keeps⟩ := result_of_mem paired member
      exact .any inPlace (keeps item takes)
  | all _ each =>
      refine .all (by simp) fun after member => ?_
      obtain ⟨before, inPlace, keeps⟩ := source_of_mem paired member
      exact keeps item (each before inPlace)

theorem admits_of_loosened {strict loose : Scalar} (loosened : strict.Loosened loose)
    (admits : strict.kind = .any ∨ strict.Admits value) :
    loose.kind = .any ∨ loose.Admits value := by
  cases loosened with
  | range => exact admits.imp_right fun found => { found with range := nofun }
  | allowed =>
      refine admits.imp_right fun found => { found with allowed := fun given => ?_ }
      exact absurd rfl given
  | pattern => exact admits.imp_right fun found => { found with pattern := nofun }
  | emptiness => exact admits.imp_right fun found => { found with nonEmpty := nofun }
  | number numeric =>
      rcases admits with anything | found
      · rw [anything] at numeric
        rcases numeric with isInt | isFloat
        · cases isInt
        · cases isFloat
      · refine .inr { found with kind := ?_ }
        have has := found.kind
        rcases numeric with isInt | isFloat
        · rw [isInt] at has
          cases has with
          | int number => exact .whole number
        · rw [isFloat] at has
          cases has with
          | float number => exact .decimal number
  | any => exact .inl rfl

theorem takes_of_loosened {strict loose : Node} (loosened : strict.Loosened loose) (value : Value)
    (takes : Takes config strict value) : Takes config loose value := by
  induction loosened generalizing value with
  | optional =>
      refine takes_map_of_looser (forall₂_replaced .refl ?_) id takes
      exact ⟨rfl, nofun, fun _ => id⟩
  | tolerant =>
      refine takes_map_of_looser (List.forall₂_same.mpr fun field _ => ?_) (fun _ => rfl) takes
      exact .refl field
  | leaf loosened =>
      cases takes with
      | scalar admits => exact .scalar (admits_of_loosened loosened admits)
  | added kept =>
      refine takes_seq_of_element (fun item element => ?_) takes
      cases element with
      | any member takes => exact .any (kept.subset member) takes
  | removed kept left =>
      refine takes_seq_of_element (fun item element => ?_) takes
      cases element with
      | all _ each => exact .all left fun variant member => each variant (kept.subset member)
  | anyInstead =>
      refine takes_seq_of_element (fun item element => ?_) takes
      cases element with
      | all present each =>
          obtain ⟨variant, member⟩ := List.exists_mem_of_ne_nil _ present
          exact .any member (each variant member)
  | field _ ofBelow =>
      refine takes_map_of_looser (forall₂_replaced .refl ?_) id takes
      exact ⟨rfl, id, ofBelow⟩
  | variant _ ofBelow =>
      exact takes_seq_of_element (fun item => takesElement_replaced ofBelow) takes
  | target _ ofBelow =>
      cases takes with
      | included takes => exact .included (ofBelow value takes)

/-- Any number of edits keeps what passes. -/
theorem takes_of_edits {strict loose : Node}
    (edits : Relation.ReflTransGen Node.Loosened strict loose)
    (takes : Takes config strict value) : Takes config loose value := by
  induction edits with
  | refl => exact takes
  | tail _ edit ofEarlier => exact takes_of_loosened edit value ofEarlier

theorem takes_map_iff_conforms (below : ∀ field ∈ fields, ∀ value,
      Takes config field.node value ↔ Conforms config field.node value) :
    Takes config (.map fields allowEmpty) value ↔
      Conforms config (.map fields allowEmpty) value := by
  rw [Conforms]
  constructor
  · intro takes
    cases takes with
    | map isMap literal present matched known =>
        refine ⟨_, isMap, fun field member name isLiteral => ⟨fun stored stores => ?_, ?_⟩,
          fun entry member free => ⟨fun field inFields governs => ?_, fun none => ?_⟩⟩
        · exact (below field member stored).mp (literal field member name isLiteral stored stores)
        · exact present field member name isLiteral
        · exact (below field inFields entry.2).mp
            (matched entry member free field (mem_applicable_iff.mpr governs))
        · exact known entry member free (applicable_eq_nil_iff.mpr none)
  · rintro ⟨entries, isMap, literals, patterns⟩
    refine .map isMap ?_ ?_ ?_ ?_
    · intro field member name isLiteral stored stores
      exact (below field member stored).mpr
        ((literals field member name isLiteral).1 stored stores)
    · intro field member name isLiteral
      exact (literals field member name isLiteral).2
    · intro entry member free field applies
      have inFields := mem_of_mem_applicable applies
      exact (below field inFields entry.2).mpr
        ((patterns entry member free).1 field inFields (mem_applicable_iff.mp applies))
    · intro entry member free none
      exact (patterns entry member free).2 (applicable_eq_nil_iff.mp none)

theorem takes_seq_iff_conforms (present : variants ≠ []) (below : ∀ variant ∈ variants, ∀ value,
      Takes config variant value ↔ Conforms config variant value) :
    Takes config (.seq variants matching) value ↔
      Conforms config (.seq variants matching) value := by
  constructor
  · intro takes
    cases takes with
    | seq isSeq elements =>
        cases matching with
        | any =>
            rw [Conforms]
            refine ⟨_, isSeq, fun item member => ?_⟩
            cases elements item member with
            | any inVariants takes => exact ⟨_, inVariants, (below _ inVariants item).mp takes⟩
        | all =>
            rw [Conforms]
            refine ⟨_, isSeq, fun item member variant inVariants => ?_⟩
            cases elements item member with
            | all _ each => exact (below variant inVariants item).mp (each variant inVariants)
  · intro conforms
    cases matching with
    | any =>
        rw [Conforms] at conforms
        obtain ⟨items, isSeq, each⟩ := conforms
        refine .seq isSeq fun item member => ?_
        obtain ⟨variant, inVariants, conforms⟩ := each item member
        exact .any inVariants ((below variant inVariants item).mpr conforms)
    | all =>
        rw [Conforms] at conforms
        obtain ⟨items, isSeq, each⟩ := conforms
        refine .seq isSeq fun item member => .all present fun variant inVariants => ?_
        exact (below variant inVariants item).mpr (each item member variant inVariants)

theorem takes_iff_conforms {node : Node} (varied : node.Varied) (value : Value) :
    Takes config node value ↔ Conforms config node value := by
  induction node using Node.induction generalizing value with
  | map fields allowEmpty ofField =>
      rw [Node.varied_map_iff] at varied
      exact takes_map_iff_conforms fun field member => ofField field member (varied field member)
  | seq variants matching ofVariant =>
      obtain ⟨present, below⟩ := Node.varied_seq_iff.mp varied
      exact takes_seq_iff_conforms present fun variant member =>
        ofVariant variant member (below variant member)
  | scalar leaf =>
      rw [Conforms]
      constructor
      · intro takes
        cases takes with
        | scalar admits => exact admits
      · exact .scalar
  | included name target ofTarget =>
      rw [Conforms, ← ofTarget (Node.varied_included_iff.mp varied) value]
      constructor
      · intro takes
        cases takes with
        | included below => exact below
      · exact .included

theorem check_eq_nil_iff_takes {node : Node} (varied : node.Varied) (path : DocPath) :
    check config path node value = [] ↔ Takes config node value :=
  (agrees_of_varied varied path value).trans (takes_iff_conforms varied value).symm

end Validation

/-- A schema that another one becomes by edits that ask for no more reports nothing where the
other reports nothing. -/
theorem Schema.validate_loosened {strict loose : Schema} (same : strict.config = loose.config)
    (edits : Relation.ReflTransGen Node.Loosened strict.root loose.root)
    (varied : strict.root.Varied) (stillVaried : loose.root.Varied) {document : Value}
    (clean : strict.validate document = []) : loose.validate document = [] := by
  have takes := (Validation.check_eq_nil_iff_takes varied []).mp clean
  rw [same] at takes
  exact (Validation.check_eq_nil_iff_takes stillVaried []).mpr
    (Validation.takes_of_edits edits takes)

/-- A required field made optional, and below it a shape widened in an included sequence that
is then given another one. -/
theorem Schema.validate_loosened_nested :
    let sizes (required : Bool) (variants : List Node) : Schema :=
      .ofNode (.map [⟨.literal "sizes", required, .included "size" (.seq variants .any)⟩] false)
    let strict := sizes true [.scalar (.ofKind .int)]
    let loose := sizes false [.scalar (.ofKind .number), .scalar (.ofKind .str)]
    let document : Value := .map [(.string "sizes", .seq [.int 2, .tagged "!old" (.int 3)])]
    Relation.ReflTransGen Node.Loosened strict.root loose.root ∧ strict.validate document = [] ∧
      loose.validate document = [] := by
  intro sizes strict loose document
  have varied (required : Bool) (variants : List Node) (present : variants ≠ [])
      (leaves : ∀ variant ∈ variants, ∃ leaf, variant = .scalar leaf) :
      (sizes required variants).root.Varied := by
    refine .map fun field member => ?_
    cases List.mem_singleton.mp member
    refine .included (.seq present fun variant inVariants => ?_)
    obtain ⟨leaf, rfl⟩ := leaves variant inVariants
    exact .scalar leaf
  have optional : strict.root.Loosened (sizes false [.scalar (.ofKind .int)]).root :=
    @Node.Loosened.optional [] [] _ _ _
  have below {few more : List Node} (loosened : (Node.seq few .any).Loosened (.seq more .any)) :
      (sizes false few).root.Loosened (sizes false more).root :=
    @Node.Loosened.field [] [] _ _ _ _ _ (.target loosened)
  have widened : (sizes false [.scalar (.ofKind .int)]).root.Loosened
      (sizes false [.scalar (.ofKind .number)]).root :=
    below (@Node.Loosened.variant [] [] _ _ _ (.leaf (.number (.inl rfl))))
  have given : (sizes false [.scalar (.ofKind .number)]).root.Loosened loose.root :=
    below (.added (List.sublist_append_left _ [Node.scalar (.ofKind .str)]))
  have edits := ((Relation.ReflTransGen.single optional).tail widened).tail given
  have same : strict.config = loose.config := rfl
  have clean : strict.validate document = [] := by decide +kernel
  exact ⟨edits, clean, Schema.validate_loosened same edits (varied _ _ (by simp) (by simp))
    (varied _ _ (by simp) (by simp)) clean⟩

end DocShape
