import DocShape.Proofs.Grammar.Definition
import DocShape.Proofs.Linking.Mentions
import DocShape.Proofs.Registry.Growth
import DocShape.Proofs.Validation.Conformance

namespace DocShape

/-! Built trees are well formed: what a node says can bear on the values it is for.

Validation passes over every constraint of a leaf for anything, and measures or matches only
values that have a length, a size or a text.  A well-formed leaf never says what would be
passed over in this way.
-/

/-- A leaf asks nothing beyond what its kind of values can meet or miss. -/
structure Scalar.WellFormed (leaf : Scalar) : Prop where
  unconstrained : leaf.kind = .any → leaf = .ofKind .any
  filled : leaf.allowEmpty = false → leaf.kind = .str
  pattern : ∀ pattern, leaf.pattern = some pattern → leaf.kind = .str
  range : ∀ range, leaf.range = some range →
    leaf.kind ∈ [.str, .number, .int, .float] ∧ Range.Fits range.min range.max

/-- Only a field of a known name can be required. -/
def FieldKey.Demandable (key : FieldKey) (required : Bool) : Prop :=
  required = true → ∃ name, key = .literal name

namespace Node

/-- At every node of the tree, also below includes: sequences have shapes for their elements,
fields that are required have names, and leaves are well formed. -/
inductive WellFormed : Node → Prop where
  | map {fields : List (Field Node)} {allowEmpty : Bool}
      (demandable : ∀ field ∈ fields, field.key.Demandable field.required)
      (below : ∀ field ∈ fields, WellFormed field.node) : WellFormed (.map fields allowEmpty)
  | seq {variants : List Node} {matching : Matching} (present : variants ≠ [])
      (below : ∀ variant ∈ variants, WellFormed variant) : WellFormed (.seq variants matching)
  | scalar {leaf : Scalar} (wellFormed : leaf.WellFormed) : WellFormed (.scalar leaf)
  | included {name : String} {target : Node} (below : WellFormed target) :
      WellFormed (.included name target)

end Node

namespace Kind

variable {kind : Kind}

theorem supportsRange_iff : kind.supportsRange = true ↔ kind ∈ [.str, .number, .int, .float] := by
  cases kind <;> decide

theorem Has.measured {value : Value} (has : kind.Has value) (ranged : kind.supportsRange = true) :
    ∃ measured, value.Measures measured := by
  cases has with
  | str text => exact ⟨_, .length text⟩
  | bool flag => cases ranged
  | whole number => exact ⟨_, .int number⟩
  | decimal number => exact ⟨_, .float number⟩
  | int number => exact ⟨_, .int number⟩
  | float number => exact ⟨_, .float number⟩

end Kind

theorem Value.Measures.unique {value : Value} {measured other : Binary64}
    (measures : value.Measures measured) (others : value.Measures other) : other = measured := by
  cases measures <;> cases others <;> rfl

namespace Scalar

variable {leaf : Scalar} {value : Value}

/-- A value meets everything a leaf says: unlike for `Admits`, a pattern or a range asks for a
value that has a text or a measure. -/
structure Meets (leaf : Scalar) (value : Value) : Prop where
  kind : leaf.kind ≠ .any → leaf.kind.Has value
  nonEmpty : leaf.allowEmpty = false → ∃ text, value = .string text ∧ text ≠ ""
  pattern : ∀ pattern, leaf.pattern = some pattern →
    ∃ text, value = .string text ∧ pattern.isMatch text = true
  allowed : leaf.allowed ≠ [] → ∃ choice ∈ leaf.allowed, value.same choice = true
  range : ∀ range, leaf.range = some range →
    ∃ measured, value.Measures measured ∧ range.contains measured = true

theorem meets_ofKind_any (value : Value) : (ofKind .any).Meets value := by
  constructor
  case kind => exact fun typed => absurd rfl typed
  case allowed => exact fun present => absurd rfl present
  all_goals exact nofun

theorem WellFormed.text_of_has (wellFormed : leaf.WellFormed) (has : leaf.kind.Has value)
    (said : leaf.allowEmpty = false ∨ ∃ pattern, leaf.pattern = some pattern) :
    ∃ text, value = .string text := by
  have isStr : leaf.kind = .str := by
    rcases said with demanded | ⟨pattern, given⟩
    · exact wellFormed.filled demanded
    · exact wellFormed.pattern pattern given
  rw [isStr] at has
  cases has
  exact ⟨_, rfl⟩

theorem WellFormed.meets_iff (wellFormed : leaf.WellFormed) :
    leaf.Meets value ↔ leaf.kind = .any ∨ leaf.Admits value := by
  constructor
  · intro meets
    by_cases anything : leaf.kind = .any
    · exact .inl anything
    · refine .inr ⟨meets.kind anything, fun demanded => ?_, fun pattern text given isText => ?_,
        meets.allowed, fun range measured given measures => ?_⟩
      · obtain ⟨text, rfl, filled⟩ := meets.nonEmpty demanded
        simpa using filled
      · obtain ⟨_, rfl, matched⟩ := meets.pattern pattern given
        cases isText
        exact matched
      · obtain ⟨_, others, contained⟩ := meets.range range given
        exact measures.unique others ▸ contained
  · rintro (anything | admits)
    · rw [wellFormed.unconstrained anything]
      exact meets_ofKind_any value
    · constructor
      case kind => exact fun _ => admits.kind
      case nonEmpty =>
        intro demanded
        obtain ⟨text, rfl⟩ := wellFormed.text_of_has admits.kind (.inl demanded)
        exact ⟨text, rfl, by simpa using admits.nonEmpty demanded⟩
      case pattern =>
        intro pattern given
        obtain ⟨text, rfl⟩ := wellFormed.text_of_has admits.kind (.inr ⟨pattern, given⟩)
        exact ⟨text, rfl, admits.pattern pattern text given rfl⟩
      case allowed => exact admits.allowed
      case range =>
        intro range given
        obtain ⟨ranged, _⟩ := wellFormed.range range given
        obtain ⟨measured, measures⟩ := admits.kind.measured (Kind.supportsRange_iff.mpr ranged)
        exact ⟨measured, measures, admits.range range measured given measures⟩

end Scalar

namespace Heading

variable {path : String} {entries : Entries} {kind : Kind}

theorem supportsRange_of_rangeUnder {range : Range}
    (found : rangeUnder path kind entries = .ok (some range)) : kind.supportsRange = true := by
  cases stored : entries.get? "range" with
  | none => simp [rangeUnder, stored] at found
  | some bounds => exact ((rangeUnder_eq_ok_iff stored).mp found).1

theorem allowed_of_allowedUnder {allowed : List Value}
    (found : allowedUnder path .any entries = .ok allowed) : allowed = [] := by
  unfold allowedUnder at found
  cases stored : entries.get? "enum" with
  | none =>
      rw [stored] at found
      cases found
      rfl
  | some choices =>
      have untyped := (allowedUnder_succeeds_iff path).mp ⟨allowed, by rwa [allowedUnder]⟩
      exact absurd rfl (untyped choices stored).1

theorem isStr_of_patternUnder {pattern : Pattern}
    (found : patternUnder path kind entries = .ok (some pattern)) : kind = .str := by
  unfold patternUnder at found
  cases stored : entries.get? "pattern" with
  | none => simp [stored] at found
  | some written =>
      by_contra other
      simp [stored, other, malformed] at found

theorem wellFormed_of_ofScalar {hasChildren : Bool} {leaf : Scalar}
    (found : ofScalar path entries kind hasChildren = .ok (.scalar leaf)) : leaf.WellFormed := by
  obtain ⟨_, _, flagged, _, filled, range, isRange, allowed, isAllowed, pattern, isPattern, same⟩ :=
    ofScalar_eq_ok_iff.mp found
  cases same
  constructor
  case unconstrained =>
    rintro rfl
    have noRange : range = none := by
      cases range with
      | none => rfl
      | some range => cases supportsRange_of_rangeUnder isRange
    have noPattern : pattern = none := by
      cases pattern with
      | none => rfl
      | some pattern => cases isStr_of_patternUnder isPattern
    have mayBeEmpty : flagged.getD true = true := by
      cases demanded : flagged.getD true with
      | true => rfl
      | false => cases filled demanded
    rw [noRange, noPattern, mayBeEmpty, allowed_of_allowedUnder isAllowed]
    rfl
  case filled => exact filled
  case pattern =>
    rintro pattern rfl
    exact isStr_of_patternUnder isPattern
  case range =>
    rintro range rfl
    exact ⟨Kind.supportsRange_iff.mp (supportsRange_of_rangeUnder isRange),
      Range.fault?_eq_none_iff.mp range.sound⟩

theorem wellFormed_of_read {leaf : Scalar} (found : read path entries = .ok (.scalar leaf)) :
    leaf.WellFormed := by
  cases readFrom found with
  | scalar _ _ ofKind => exact wellFormed_of_ofScalar ofKind

/-- A sequence is read off a list that is not empty. -/
theorem items_of_read {keyword : String} {matching : Matching}
    (found : read path entries = .ok (.seq keyword matching)) : entries.items keyword ≠ [] := by
  cases readFrom found with
  | seq _ _ ofSequence present =>
      have stored := (keyword_of_either ofSequence).2
      rwa [Entries.items, stored]

end Heading

namespace Definition

/-- What is read of a source is well formed wherever it is without a fault. -/
inductive WellFormed : Definition → Prop where
  | refused (error : SchemaError) : WellFormed (.refused error)
  | included (name : String) : WellFormed (.included name)
  | map {fields : List (Definition × Except SchemaError (FieldKey × Bool))} {allowEmpty : Bool}
      (demandable : ∀ field ∈ fields, ∀ key required, field.2 = .ok (key, required) →
        key.Demandable required)
      (below : ∀ field ∈ fields, WellFormed field.1) : WellFormed (.map fields allowEmpty)
  | seq {variants : List Definition} {matching : Matching} (present : variants ≠ [])
      (below : ∀ variant ∈ variants, WellFormed variant) : WellFormed (.seq variants matching)
  | scalar {leaf : Scalar} (wellFormed : leaf.WellFormed) : WellFormed (.scalar leaf)

variable {limit depth : Nat} {path : String}

theorem demandable_of_labelOf {name : String} {required : Option Bool} {key : FieldKey}
    {demanded : Bool} (labelled : labelOf path name required = .ok (key, demanded)) :
    key.Demandable demanded := by
  unfold labelOf at labelled
  cases marked : afterMark? patternMark name with
  | none =>
      simp only [marked, Except.ok.injEq, Prod.mk.injEq] at labelled
      exact fun _ => ⟨name, labelled.1.symm⟩
  | some source =>
      rintro rfl
      by_cases wanted : required = some true
      · simp [marked, wanted, Heading.malformed] at labelled
      · cases compiled : Heading.patternOf path source <;>
          simp [marked, wanted, compiled, Except.map] at labelled

theorem readField_wellFormed {field : Value × Value}
    (ofChild : ∀ path, (read limit path (depth + 1) field.2).WellFormed) :
    (readField limit path depth field).1.WellFormed ∧
      ∀ key required, (readField limit path depth field).2 = .ok (key, required) →
        key.Demandable required := by
  unfold readField
  split
  · exact ⟨.refused _, nofun⟩
  · split
    · exact ⟨.refused _, nofun⟩
    · exact ⟨ofChild _, fun _ _ labelled => demandable_of_labelOf labelled⟩

/-- Reading finds a fault or makes a well-formed definition, whatever the source holds. -/
theorem read_wellFormed (limit : Nat) (path : String) (depth : Nat) (value : Value) :
    (read limit path depth value).WellFormed := by
  by_cases deep : limit < depth
  · cases value <;> simp only [read, deep, if_true] <;> exact .refused _
  · have shallow := Nat.le_of_not_lt deep
    cases value with
    | map entries =>
        rw [read_map shallow]
        cases found : Heading.read path entries with
        | error error => exact .refused error
        | ok heading =>
            cases heading with
            | included name => exact .included name
            | map keyword allowEmpty =>
                have each (field : Value × Value) :=
                  @readField_wellFormed limit depth path field fun childPath =>
                    read_wellFormed limit childPath (depth + 1) field.2
                exact .map (List.forall_mem_map.mpr fun field _ => (each field).2)
                  (List.forall_mem_map.mpr fun field _ => (each field).1)
            | seq keyword matching =>
                have present := Heading.items_of_read found
                refine .seq (by simpa using present) (List.forall_mem_map.mpr fun variant _ => ?_)
                exact read_wellFormed limit _ (depth + 1) variant.1
            | scalar leaf => exact .scalar (Heading.wellFormed_of_read found)
    | _ =>
        rw [read, if_neg deep]
        · exact .refused _
        · simp
termination_by limit + 1 - depth

theorem WellFormed.expand {lookUp : String → Except SchemaError Node} {definition : Definition}
    {node : Node} (wellFormed : definition.WellFormed)
    (targets : ∀ name target, lookUp name = .ok target → target.WellFormed)
    (expanded : definition.expand lookUp = .ok node) : node.WellFormed := by
  induction wellFormed generalizing node with
  | refused error => exact absurd expanded expand_refused_ne_ok
  | included name =>
      obtain ⟨target, found, rfl⟩ := expand_included_eq_ok_iff.mp expanded
      exact .included (targets name target found)
  | map demandable _ ofField =>
      obtain ⟨fields, related, rfl⟩ := expand_map_eq_ok_iff.mp expanded
      constructor
      · intro field member
        obtain ⟨definition, inDefinitions, _, labelled⟩ := source_of_mem related member
        exact demandable definition inDefinitions _ _ labelled
      · intro field member
        obtain ⟨definition, inDefinitions, expandedField, _⟩ := source_of_mem related member
        exact ofField definition inDefinitions expandedField
  | seq present _ ofVariant =>
      obtain ⟨variants, related, rfl⟩ := expand_seq_eq_ok_iff.mp expanded
      constructor
      · rintro rfl
        exact present (List.forall₂_nil_right_iff.mp related)
      · intro variant member
        obtain ⟨definition, inDefinitions, expandedVariant⟩ := source_of_mem related member
        exact ofVariant definition inDefinitions expandedVariant
  | scalar wellFormed =>
      cases expanded
      exact .scalar wellFormed

end Definition

namespace Scope

variable {scope : Scope} {built : Catalog Node}

/-- Everything that the scope knows is well formed. -/
structure WellFormed (scope : Scope) : Prop where
  registered : ∀ name node, scope.registered.find? name = some node → node.WellFormed
  declared : ∀ name definition, scope.declared.find? name = some definition →
    definition.WellFormed

theorem rebuild_wellFormed (wellFormed : scope.WellFormed) {room : Nat} {opened : List String}
    {name : String} {node : Node} (found : scope.rebuild room opened name = .ok node) :
    node.WellFormed := by
  induction room generalizing opened name node with
  | zero =>
      rw [rebuild] at found
      split at found
      · cases found
      · split at found
        · cases found
        · split at found
          · rename_i target isRegistered
            cases found
            exact wellFormed.registered name _ isRegistered
          · cases found
  | succ inner inRoom =>
      rw [rebuild] at found
      split at found
      · cases found
      · split at found
        · rename_i definition isDeclared
          exact (wellFormed.declared name definition isDeclared).expand
            (fun _ _ inside => inRoom inside) found
        · split at found
          · rename_i target isRegistered
            cases found
            exact wellFormed.registered name _ isRegistered
          · cases found

/-- What an include stands for while fragments are built is well formed. -/
theorem available_wellFormed (wellFormed : scope.WellFormed) (linked : scope.Linked built)
    (name : String) (node : Node) (found : scope.available built name = .ok node) :
    node.WellFormed :=
  rebuild_wellFormed wellFormed (rebuilt_of_available linked found)

end Scope

namespace Registry

variable {registry grown : Registry}

def WellFormed (registry : Registry) : Prop :=
  ∀ name node, registry.get? name = some node → node.WellFormed

theorem WellFormed.scopeWith (wellFormed : registry.WellFormed) (limit : Nat)
    (declared : Catalog Value) :
    (Source.scopeWith registry.fragments limit declared).WellFormed := by
  constructor
  case registered => exact wellFormed
  case declared =>
    intro name definition isDeclared
    obtain ⟨body, _, rfl⟩ := Source.declared_scopeWith_iff.mp isDeclared
    exact Definition.read_wellFormed limit _ 0 body

theorem wellFormed_of_absorb (wellFormed : registry.WellFormed) {declared : Catalog Value}
    {names : List String} (done : registry.absorb declared = .ok (grown, names)) :
    grown.WellFormed := by
  obtain ⟨_, built, filled, rfl, _⟩ := absorb_eq_ok_iff.mp done
  obtain ⟨advances, _⟩ := Scope.buildDeclared_fills Scope.linked_empty filled
  intro name node found
  rw [get?, Catalog.find?_extend, Option.or_eq_some_iff] at found
  rcases found with added | ⟨_, earlier⟩
  · exact Scope.available_wellFormed (wellFormed.scopeWith _ declared) advances.linked name node
      (Scope.available_of_find? advances.linked added)
  · exact wellFormed name node earlier

theorem wellFormed_of_registerSource (wellFormed : registry.WellFormed) {source : Value}
    {names : List String} (done : registry.registerSource source = .ok (grown, names)) :
    grown.WellFormed := by
  obtain ⟨_, _, absorbed⟩ := bind_eq_ok.mp done
  exact wellFormed_of_absorb wellFormed absorbed

end Registry

namespace Schema

variable {registry : Registry} {schema : Schema}

theorem wellFormed_of_ofSource (wellFormed : registry.WellFormed) {source : Value}
    (made : ofSource registry source = .ok schema) :
    schema.root.WellFormed ∧
      ∀ name node, schema.fragments.find? name = some node → node.WellFormed := by
  obtain ⟨entries, rfl, _, _, _, built, filled, root, fragments, linkedRoot, rfl⟩ :=
    ofSource_eq_ok_iff.mp made
  obtain ⟨toBuilt, _⟩ := Scope.buildDeclared_fills Scope.linked_empty filled
  obtain ⟨toFragments, expanded⟩ :=
    Scope.link_built (Scope.resolve_resolves _ []) _ _ _ _ toBuilt.linked linkedRoot
  have targets := Scope.available_wellFormed
    (wellFormed.scopeWith registry.config.maxDepth (Source.fragments entries)) toFragments.linked
  constructor
  · exact Definition.WellFormed.expand (Definition.read_wellFormed _ _ _ _) targets expanded
  · intro name node found
    exact targets name node (Scope.available_of_find? toFragments.linked found)

/-- Whatever a source builds, as a schema or as fragments of a registry, is well formed, and
in what is well formed every word counts: a leaf passes a value only if the value meets
everything the leaf says. -/
theorem builds_wellFormed (wellFormed : registry.WellFormed) (source : Value) :
    (∀ schema, ofSource registry source = .ok schema → schema.root.WellFormed ∧
      ∀ name node, schema.fragments.find? name = some node → node.WellFormed) ∧
    (∀ grown names, registry.registerSource source = .ok (grown, names) → grown.WellFormed) ∧
    ∀ (leaf : Scalar), leaf.WellFormed → ∀ config path value,
      Validation.check config path (.scalar leaf) value = [] ↔ leaf.Meets value.content := by
  refine ⟨fun schema made => wellFormed_of_ofSource wellFormed made,
    fun grown names done => Registry.wellFormed_of_registerSource wellFormed done,
    fun leaf leafWellFormed config path value => ?_⟩
  rw [Validation.check, Validation.scalarViolations_eq_nil_iff, leafWellFormed.meets_iff]

theorem builds_wellFormed_forward :
    forwardRegistry.WellFormed ∧ ∃ schema, ofSource forwardRegistry forwardSource = .ok schema ∧
      schema.root.WellFormed := by
  have wellFormed : forwardRegistry.WellFormed := by
    intro name node found
    have base := (Catalog.find?_ofList_eq_some_iff (by simp)).mp found
    cases List.mem_singleton.mp base
    exact .scalar ⟨nofun, nofun, nofun, nofun⟩
  have made : (ofSource forwardRegistry forwardSource).isOk = true := by
    decide +kernel
  obtain ⟨schema, made⟩ := exists_of_isOk made
  exact ⟨wellFormed, schema, made, ((builds_wellFormed wellFormed forwardSource).1 schema made).1⟩

end Schema
end DocShape
