import DocShape.Proofs.Grammar.Nesting
import DocShape.Proofs.Grammar.Source
import DocShape.Proofs.Registry.Configuration

namespace DocShape

/-! Schemas built under a lower limit.

A lower limit takes effect in one way only: the run stops at the first definition below it,
with what was built before being the same.  So a run that is not stopped gives what it gave
before, and whether it is stopped can be told from the depth of the source.
-/

namespace Linking

variable {α β : Type} {limit : Nat}

/-- The second computation is the first one, or is stopped by the limit. -/
def StoppedBy (limit : Nat) (full stopped : Linking α) : Prop :=
  ∀ before, stopped before = full before ∨ ∃ path, stopped before = .error (.tooDeep path limit)

theorem StoppedBy.refl (computation : Linking α) : StoppedBy limit computation computation :=
  fun _ => .inl rfl

theorem StoppedBy.bind {full stopped : Linking α} {next later : α → Linking β}
    (ofFirst : StoppedBy limit full stopped)
    (ofNext : ∀ found, StoppedBy limit (next found) (later found)) :
    StoppedBy limit (full >>= next) (stopped >>= later) := by
  intro before
  change (stopped before >>= fun found => later found.1 found.2) =
      (full before >>= fun found => next found.1 found.2) ∨
    ∃ path, (stopped before >>= fun found => later found.1 found.2) = .error (.tooDeep path limit)
  obtain same | ⟨path, tooDeep⟩ := ofFirst before
  · rw [same]
    cases full before with
    | error error => exact .inl rfl
    | ok result => exact ofNext result.1 result.2
  · rw [tooDeep]
    exact .inr ⟨path, rfl⟩

end Linking

namespace Definition

variable {resolve other : String → Linking Node} {limit wider depth : Nat} {path : String}

theorem linkFields_stoppedBy
    {definitions cut : List (Definition × Except SchemaError (FieldKey × Bool))}
    (ofField : List.Forall₂ (fun definition inCut =>
      Linking.StoppedBy limit (definition.1.link resolve) (inCut.1.link other) ∧
        definition.2 = inCut.2) definitions cut) :
    Linking.StoppedBy limit (linkFields resolve definitions) (linkFields other cut) := by
  induction ofField with
  | nil => exact .refl _
  | cons first _ inRest =>
      obtain ⟨ofFirst, sameLabel⟩ := first
      rw [linkFields, linkFields, sameLabel]
      exact ofFirst.bind fun _ => (Linking.StoppedBy.refl _).bind fun _ => inRest.bind fun _ =>
        .refl _

theorem linkVariants_stoppedBy {definitions cut : List Definition}
    (ofVariant : List.Forall₂ (fun definition inCut =>
      Linking.StoppedBy limit (definition.link resolve) (inCut.link other)) definitions cut) :
    Linking.StoppedBy limit (linkVariants resolve definitions) (linkVariants other cut) := by
  induction ofVariant with
  | nil => exact .refl _
  | cons ofFirst _ inRest => exact ofFirst.bind fun _ => inRest.bind fun _ => .refl _

theorem readField_stoppedBy {field : Value × Value}
    (ofChild : ∀ childPath, Linking.StoppedBy limit
      ((read wider childPath (depth + 1) field.2).link resolve)
      ((read limit childPath (depth + 1) field.2).link other)) :
    Linking.StoppedBy limit ((readField wider path depth field).1.link resolve)
        ((readField limit path depth field).1.link other) ∧
      (readField wider path depth field).2 = (readField limit path depth field).2 := by
  unfold readField
  cases field.1.text? with
  | none => exact ⟨.refl _, rfl⟩
  | some name =>
      simp only
      cases requiredOf (path ++ "." ++ name) field.2 with
      | error error => exact ⟨.refl _, rfl⟩
      | ok required => exact ⟨ofChild _, rfl⟩

/-- A definition read under a lower limit is linked alike, up to where the limit is passed. -/
theorem link_read_stoppedBy {limit wider depth : Nat} {path : String} {value : Value}
    (widens : limit ≤ wider)
    (resolves : ∀ name, Linking.StoppedBy limit (resolve name) (other name)) :
    Linking.StoppedBy limit ((read wider path depth value).link resolve)
      ((read limit path depth value).link other) := by
  by_cases deep : limit < depth
  · have refused : read limit path depth value = .refused (.tooDeep path limit) := by
      cases value <;> simp only [read, deep, if_true]
    rw [refused]
    exact fun before => .inr ⟨path, rfl⟩
  · have shallow := Nat.le_of_not_lt deep
    cases value with
    | map entries =>
        rw [read_map shallow, read_map (Nat.le_trans shallow widens)]
        cases Heading.read path entries with
        | error error => exact .refl _
        | ok heading =>
            cases heading with
            | included name => exact (resolves name).bind fun _ => .refl _
            | map keyword allowEmpty =>
                refine (linkFields_stoppedBy ?_).bind fun _ => .refl _
                rw [List.forall₂_map_left_iff, List.forall₂_map_right_iff, List.forall₂_same]
                exact fun field _ => readField_stoppedBy fun _ => link_read_stoppedBy widens resolves
            | seq keyword matching =>
                refine (linkVariants_stoppedBy ?_).bind fun _ => .refl _
                rw [List.forall₂_map_left_iff, List.forall₂_map_right_iff, List.forall₂_same]
                exact fun variant _ => link_read_stoppedBy widens resolves
            | scalar leaf => exact .refl _
    | _ =>
        rw [read, read, if_neg deep, if_neg (by omega)]
        · exact .refl _
        · simp
        · simp
termination_by limit + 1 - depth

end Definition

namespace Source

variable {registered : Catalog Node} {entries : Entries} {limit wider : Nat}

theorem names_scope : (scope registered limit entries).declared.names = (fragments entries).names := by
  simp [scope, Catalog.names, Catalog.map]

theorem size_scope : (scope registered limit entries).declared.size = (fragments entries).size := by
  simp [scope, Catalog.size, Catalog.map]

theorem resolve_stoppedBy (widens : limit ≤ wider) (room : Nat) (opened : List String)
    (name : String) :
    Linking.StoppedBy limit ((scope registered wider entries).resolve room opened name)
      ((scope registered limit entries).resolve room opened name) := by
  -- Only an opened fragment is resolved further, with less room, so the recursion is on it.
  intro before
  rw [Scope.resolve_eq, Scope.resolve_eq]
  cases before.find? name with
  | some node => exact .inl rfl
  | none =>
      by_cases isOpen : opened.contains name = true
      · rw [if_pos isOpen, if_pos isOpen]
        exact .inl rfl
      · rw [if_neg isOpen, if_neg isOpen]
        have declared (limit : Nat) : (scope registered limit entries).declared.find? name =
            ((fragments entries).find? name).map (.read limit (fragmentPath name) 0) := by
          rw [scope, Catalog.find?_map]
        rw [declared, declared]
        cases (fragments entries).find? name with
        | none => exact .inl rfl
        | some body =>
            cases room with
            | zero => exact .inl rfl
            | succ inner =>
                simp only [Option.map_some]
                obtain same | ⟨path, tooDeep⟩ := Definition.link_read_stoppedBy widens
                  (resolve_stoppedBy widens inner (opened ++ [name])) before
                · exact .inl (by rw [same])
                · exact .inr ⟨path, by rw [tooDeep]; rfl⟩

theorem lookUp_stoppedBy (widens : limit ≤ wider) (name : String) :
    Linking.StoppedBy limit ((scope registered wider entries).lookUp name)
      ((scope registered limit entries).lookUp name) := by
  unfold Scope.lookUp
  rw [size_scope, size_scope]
  exact resolve_stoppedBy widens _ [] name

theorem buildDeclared_stoppedBy (widens : limit ≤ wider) :
    Linking.StoppedBy limit (scope registered wider entries).buildDeclared
      (scope registered limit entries).buildDeclared := by
  unfold Scope.buildDeclared
  rw [names_scope, names_scope]
  induction (fragments entries).names with
  | nil => exact .refl (pure ())
  | cons name rest inRest =>
      simp only [List.forM_eq_forM, List.forM_cons] at inRest ⊢
      exact ((lookUp_stoppedBy widens name).bind fun _ => .refl (pure ())).bind fun _ => inRest

/-- The run that builds a source: its fragments first, then its body. -/
def linked (registered : Catalog Node) (limit : Nat) (entries : Entries) : Linking Node := do
  (scope registered limit entries).buildDeclared
  (scope registered limit entries).build (body limit entries)

theorem linked_stoppedBy (registered : Catalog Node) (entries : Entries) (widens : limit ≤ wider) :
    Linking.StoppedBy limit (linked registered wider entries) (linked registered limit entries) :=
  (buildDeclared_stoppedBy widens).bind fun _ =>
    Definition.link_read_stoppedBy widens (lookUp_stoppedBy widens)

/-- A source that is not too deep is read alike under any wider limit. -/
theorem linked_of_depth_le (widens : limit ≤ wider) (fits : depth (.map entries) ≤ limit)
    (distinct : ((declarations entries).map (·.1)).Nodup) :
    linked registered limit entries = linked registered wider entries := by
  obtain ⟨bodyFits, fragmentFits⟩ := depth_map_le_iff.mp fits
  have sameBody : body limit entries = body wider entries :=
    Definition.read_of_nesting_le widens (by omega)
  have sameDeclared : (scope registered limit entries).declared =
      (scope registered wider entries).declared := by
    refine Catalog.ext_find? fun name definition => ?_
    rw [scope_declared_iff distinct, scope_declared_iff distinct]
    refine exists_congr fun body => and_congr_right fun declares => ?_
    have bodyFits := fragmentFits name body declares
    rw [Definition.read_of_nesting_le widens (by omega)]
  have sameScope : scope registered limit entries = scope registered wider entries :=
    congrArg (Scope.mk registered) sameDeclared
  rw [linked, linked, sameBody, sameScope]

end Source

namespace Schema

variable {registry : Registry} {schema : Schema}

theorem ofSource_eq_linked (registry : Registry) {entries : Entries}
    (named : ∀ declaration ∈ Source.declarations entries, declaration.1 ≠ "")
    (distinct : ((Source.declarations entries).map (·.1)).Nodup)
    (free : ∀ name ∈ (Source.fragments entries).names, registry.fragments.contains name = false) :
    ofSource registry (.map entries) =
      (Source.linked registry.fragments registry.config.maxDepth entries .empty).map
        fun linked => ⟨linked.1, linked.2, registry.config⟩ := by
  have parts : Source.split entries = .ok (Source.fragments entries, Source.remaining entries) :=
    Source.split_eq_ok_iff.mpr ⟨named, distinct, rfl⟩
  have scope : Source.scopeOf registry.fragments registry.config.maxDepth
      (Source.fragments entries) = .ok (Source.scope registry.fragments _ entries) :=
    Source.scopeOf_of_free registry.config.maxDepth free
  simp only [ofSource, parts, scope, Source.linked, Source.body, bind, Except.bind, StateT.bind,
    StateT.run]
  cases (Source.scope registry.fragments registry.config.maxDepth entries).buildDeclared .empty with
  | error error => rfl
  | ok built =>
      dsimp only
      generalize (Source.scope registry.fragments registry.config.maxDepth entries).build _ built.2 =
        linked
      cases linked with
      | error error => rfl
      | ok linked => rfl

/-- A source that builds is not too deep. -/
theorem depth_le_of_ofSource {source : Value} (made : ofSource registry source = .ok schema) :
    Source.depth source ≤ registry.config.maxDepth := by
  obtain ⟨entries, rfl, _, distinct, _, buildable, sound, _⟩ :=
    ofSource_succeeds_iff_buildable.mp ⟨schema, made⟩
  refine Source.depth_map_le_iff.mpr ⟨?_, fun name body declares => ?_⟩
  · simpa using Definition.nesting_le_of_sound sound
  · have fragmentSound := buildable.sound name _
      ((Source.scope_declared_iff distinct).mpr ⟨body, declares, rfl⟩)
    simpa using Definition.nesting_le_of_sound fragmentSound

/-- Under a lower limit a source that builds gives the same root and fragments, unless some
definition in it lies deeper than the limit; then it is refused for that. -/
theorem ofSource_limited {source : Value} (made : ofSource registry source = .ok schema)
    {limit : Nat} (lower : limit ≤ registry.config.maxDepth) :
    (Source.depth source ≤ limit →
      ofSource (registry.governed { registry.config with maxDepth := limit }) source =
        .ok (schema.withConfig { registry.config with maxDepth := limit })) ∧
    (limit < Source.depth source → ∃ path,
      ofSource (registry.governed { registry.config with maxDepth := limit }) source =
        .error (.tooDeep path limit)) := by
  obtain ⟨entries, rfl, named, distinct, free, _⟩ := ofSource_eq_ok_iff.mp made
  have full := ofSource_eq_linked registry named distinct free
  have lowered := ofSource_eq_linked
    (registry.governed { registry.config with maxDepth := limit }) named distinct free
  rw [made] at full
  cases linked : Source.linked registry.fragments registry.config.maxDepth entries .empty with
  | error error =>
      rw [linked] at full
      cases full
  | ok built =>
      rw [linked] at full
      obtain rfl := Except.ok.inj full
      have same : Source.linked registry.fragments limit entries .empty = .ok built →
          ofSource (registry.governed { registry.config with maxDepth := limit }) (.map entries) =
            .ok ⟨built.1, built.2, { registry.config with maxDepth := limit }⟩ := by
        intro again
        rw [lowered]
        exact congrArg (Except.map _) again
      constructor
      · intro fits
        exact same (Source.linked_of_depth_le lower fits distinct ▸ linked)
      · intro deep
        obtain again | ⟨path, tooDeep⟩ :=
          Source.linked_stoppedBy registry.fragments entries lower .empty
        · have shallow := depth_le_of_ofSource (same (again.trans linked))
          exact absurd shallow (Nat.not_le.mpr deep)
        · refine ⟨path, ?_⟩
          rw [lowered]
          exact congrArg (Except.map _) tooDeep

/-- A source with a fragment two steps deep, which is included two steps below its root. -/
def layeredSource : Value := .map
  [(.string "schema;part", .map [(.string "map", .map
      [(.string "inner", .map [(.string "seq", .seq [.map [(.string "type", .string "int")]])])])]),
    (.string "map", .map
      [(.string "outer", .map [(.string "seq", .seq [.map [(.string "include", .string "part")]])])])]

theorem ofSource_limited_layered :
    ∃ schema, ofSource .empty layeredSource = .ok schema ∧
      ofSource (Registry.empty.governed { Config.standard with maxDepth := 2 }) layeredSource =
        .ok (schema.withConfig { Config.standard with maxDepth := 2 }) ∧
      ∃ path, ofSource (Registry.empty.governed { Config.standard with maxDepth := 1 })
        layeredSource = .error (.tooDeep path 1) := by
  have builds : (ofSource .empty layeredSource).isOk = true := by
    decide +kernel
  have two : Source.depth layeredSource = 2 := by
    decide +kernel
  have toTwo : 2 ≤ Registry.empty.config.maxDepth := by decide
  have toOne : 1 ≤ Registry.empty.config.maxDepth := by decide
  obtain ⟨schema, made⟩ := exists_of_isOk builds
  refine ⟨schema, made, (ofSource_limited made toTwo).1 two.le, ?_⟩
  exact (ofSource_limited made toOne).2 (two.symm ▸ Nat.one_lt_two)

end Schema
end DocShape
