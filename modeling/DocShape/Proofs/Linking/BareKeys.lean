import DocShape.Proofs.Grammar.BareKeys
import DocShape.Proofs.Grammar.Bounds
import DocShape.Proofs.Grammar.Nesting
import DocShape.Proofs.Grammar.Source
import DocShape.Proofs.Inside

namespace DocShape

/-! Sources with the tags taken off their keys.

Where every keyword is written without a tag, a source with tags on other keys builds what it
builds without them, and one that builds has no two keys in one mapping that only a tag keeps
apart.  A table of fields is the exception: it may hold one name twice.
-/

namespace Heading

variable {path : String} {entries bounds : Entries} {heading : Heading}

theorem isKnown_of_read (found : read path entries = .ok heading) :
    ∀ entry ∈ entries, isKnown entry.1 = true :=
  (checkKeywords_eq_ok_iff_keyed.mp (read_eq_ok_iff.mp found).1).known

/-- A range that is written in an accepted definition is itself accepted. -/
theorem rangeOf_of_read {definition : Value} (found : read path entries = .ok heading)
    (ranged : entries.get? "range" = some definition) :
    ∃ range, rangeOf path definition = .ok range := by
  cases readFrom found with
  | included _ _ alone => cases ranged.symm.trans (alone "range" (by decide))
  | map _ lacks | seq _ lacks => cases ranged.symm.trans (lacks "range" (by decide))
  | scalar _ _ ofKind =>
      obtain ⟨_, _, _, _, _, _, under, _⟩ := ofScalar_eq_ok_iff.mp ofKind
      obtain ⟨_, range, isRead, _⟩ := (rangeUnder_eq_ok_iff ranged).mp under
      exact ⟨range, isRead⟩

/-- A bound is added at an end that was free, and takes it. -/
theorem ends_of_addBound {before after : Option Bound × Option Bound} {entry : Value × Value}
    (added : addBound path before entry = .ok after) :
    (keywordOf entry.1 ∈ ["min", "min-ex"] ∧ before.1 = none ∧ after.1 ≠ none ∧
        after.2 = before.2) ∨
      (keywordOf entry.1 ∈ ["max", "max-ex"] ∧ before.2 = none ∧ after.2 ≠ none ∧
        after.1 = before.1) := by
  obtain ⟨low, key, _, free, rfl⟩ | ⟨high, key, _, free, rfl⟩ := addBound_eq_ok_iff_ends.mp added
  · refine .inl ⟨?_, free, Option.some_ne_none low, rfl⟩
    rw [key, Bound.lowKey]
    split <;> simp
  · refine .inr ⟨?_, free, Option.some_ne_none high, rfl⟩
    rw [key, Bound.highKey]
    split <;> simp

theorem ne_of_mem_ends {low high : String} (isLow : low ∈ ["min", "min-ex"])
    (isHigh : high ∈ ["max", "max-ex"]) : low ≠ high := by
  rintro rfl
  revert isHigh
  rcases List.mem_pair.mp isLow with rfl | rfl <;> decide

/-- Two bounds never have one key. -/
theorem keys_of_foldlM_addBound {before after : Option Bound × Option Bound}
    (added : bounds.foldlM (addBound path) before = .ok after) :
    (∀ entry ∈ bounds, (keywordOf entry.1 ∈ ["min", "min-ex"] ∧ before.1 = none) ∨
        (keywordOf entry.1 ∈ ["max", "max-ex"] ∧ before.2 = none)) ∧
      bounds.Pairwise fun earlier later => keywordOf earlier.1 ≠ keywordOf later.1 := by
  induction bounds generalizing before with
  | nil => exact ⟨nofun, .nil⟩
  | cons entry rest inRest =>
      rw [List.foldlM_cons] at added
      obtain ⟨between, ofFirst, ofRest⟩ := bind_eq_ok.mp added
      obtain ⟨ends, apart⟩ := inRest ofRest
      have others : ∀ later ∈ rest,
          ((keywordOf later.1 ∈ ["min", "min-ex"] ∧ before.1 = none) ∨
            (keywordOf later.1 ∈ ["max", "max-ex"] ∧ before.2 = none)) ∧
          keywordOf entry.1 ≠ keywordOf later.1 := by
        intro later member
        rcases ends_of_addBound ofFirst with ⟨low, _, taken, kept⟩ | ⟨high, _, taken, kept⟩
        · rcases ends later member with ⟨_, free⟩ | ⟨otherEnd, free⟩
          · exact absurd free taken
          · exact ⟨.inr ⟨otherEnd, kept ▸ free⟩, ne_of_mem_ends low otherEnd⟩
        · rcases ends later member with ⟨otherEnd, free⟩ | ⟨_, free⟩
          · exact ⟨.inl ⟨otherEnd, kept ▸ free⟩, (ne_of_mem_ends otherEnd high).symm⟩
          · exact absurd free taken
      refine ⟨List.forall_mem_cons.mpr ⟨?_, fun later member => (others later member).1⟩,
        List.pairwise_cons.mpr ⟨fun later member => (others later member).2, apart⟩⟩
      rcases ends_of_addBound ofFirst with ⟨low, free, _⟩ | ⟨high, free, _⟩
      · exact .inl ⟨low, free⟩
      · exact .inr ⟨high, free⟩

end Heading

namespace Value

variable {left right : Value}

theorem text?_eq_of_same (same : left.content.same right.content = true) :
    left.text? = right.text? := by
  unfold text?
  cases here : left.content <;> cases there : right.content <;>
    simp_all [Value.same]

end Value

namespace Source

variable {entries : Entries}

theorem distinct_bareKeys_iff : (bareKeys entries).Distinct ↔
    entries.Pairwise fun earlier later => earlier.1.content.same later.1.content = false := by
  unfold Entries.Distinct bareKeys
  rw [List.pairwise_map]

/-- The keys of an accepted definition are keywords, and so without tags. -/
theorem distinct_of_read {path : String} {heading : Heading} (explicit : entries.Explicit)
    (distinct : entries.Distinct) (found : Heading.read path entries = .ok heading) :
    (bareKeys entries).Distinct := by
  have known := Heading.isKnown_of_read found
  have bare : bareKeys entries = entries := by
    unfold bareKeys
    refine (List.map_congr_left fun entry member => ?_).trans (List.map_id entries)
    obtain ⟨name, plain⟩ := explicit entry member (known entry member)
    obtain ⟨key, stored⟩ := entry
    cases plain
    rfl
  rwa [bare]

theorem distinct_of_rangeOf {path : String} {range : Range}
    (found : Heading.rangeOf path (.map entries) = .ok range) : (bareKeys entries).Distinct := by
  obtain ⟨_, added, _⟩ := bind_eq_ok.mp found
  rw [distinct_bareKeys_iff]
  refine (Heading.keys_of_foldlM_addBound added).2.imp fun {earlier later} apart => ?_
  by_contra same
  rw [Bool.not_eq_false] at same
  exact apart (by rw [Heading.keywordOf, Value.text?_eq_of_same same, Heading.keywordOf])

end Source

namespace Definition

variable {limit depth : Nat} {path : String} {entries found : Entries} {value : Value}

/-- In a faultless definition every definition has been read, and none had a fault. -/
theorem read_of_reaches (sound : (read limit path depth value).Sound)
    (reaches : Source.Reaches value found) :
    ∃ foundPath heading, Heading.read foundPath found = .ok heading := by
  induction reaches generalizing path depth with
  | here entries =>
      rw [read_map (shallow_of_sound sound)] at sound
      cases done : Heading.read path entries with
      | error error =>
          rw [done] at sound
          exact absurd sound not_sound_refused
      | ok heading => exact ⟨path, heading, done⟩
  | @within entries _ child inside _ ofChild =>
      rw [read_map (shallow_of_sound sound)] at sound
      cases done : Heading.read path entries with
      | error error =>
          rw [done] at sound
          exact absurd sound not_sound_refused
      | ok heading =>
          rw [done] at sound
          obtain ⟨childPath, childSound⟩ :=
            sound_of_ofHeading sound (Heading.children_of_inside done inside)
          exact ofChild childSound

end Definition

namespace Source

variable {entries found : Entries} {value body : Value}

/-- The definitions that a source consists of: its root and the bodies of its fragments. -/
def IsBody (entries : Entries) (body : Value) : Prop :=
  body = .map (remaining entries) ∨ ∃ name, Declares entries name body

/-- An entry of a source with bare keys, in the definition under it too. -/
def bareTopEntry (entry : Value × Value) : Value × Value :=
  (entry.1.content,
    if (fragmentName? entry.1).isSome then bareDefinition entry.2
    else bareUnder (Heading.keywordOf entry.1) entry.2)

/-- A source with the tags taken off all keys that building it looks at. -/
def bareSource : Value → Value
  | .map entries => .map (entries.map bareTopEntry)
  | other => other

/-- Every keyword in the source is written without a tag. -/
def KeywordsExplicit (source : Value) : Prop :=
  ∀ entries, source = .map entries → ∀ body, IsBody entries body → Explicit body

/-- No two keys are equal but for their tags: at the top of a source, in one of its
definitions, or in the range of one. -/
structure KeysApart (entries : Entries) : Prop where
  top : (bareKeys entries).Distinct
  definition : ∀ body, IsBody entries body → ∀ found, Reaches body found →
    (bareKeys found).Distinct
  range : ∀ body, IsBody entries body → ∀ found, Reaches body found → ∀ bounds,
    found.get? "range" = some (.map bounds) → (bareKeys bounds).Distinct

theorem fragmentName?_content {key : Value} : fragmentName? key.content = fragmentName? key := by
  rw [fragmentName?, Value.text?_content, fragmentName?]

theorem remaining_bareSource :
    remaining (entries.map bareTopEntry) = bareEntries (remaining entries) := by
  unfold remaining
  rw [bareEntries_eq_map, List.filter_map]
  have kept : (fun entry : Value × Value => (fragmentName? entry.1).isNone) ∘ bareTopEntry =
      fun entry => (fragmentName? entry.1).isNone := by
    funext entry
    simp only [Function.comp, bareTopEntry, fragmentName?_content]
  rw [kept]
  refine List.map_congr_left fun entry member => ?_
  have unnamed : fragmentName? entry.1 = none := by
    simpa using (List.mem_filter.mp member).2
  simp [bareTopEntry, bareEntry, unnamed]

theorem declarations_bareSource :
    declarations (entries.map bareTopEntry) =
      (declarations entries).map fun declaration =>
        (declaration.1, bareDefinition declaration.2) := by
  unfold declarations
  rw [List.filterMap_map, List.map_filterMap]
  congr 1
  funext entry
  simp only [Function.comp, bareTopEntry, fragmentName?_content]
  cases fragmentName? entry.1 <;> rfl

theorem declaredNames_bareSource :
    (declarations (entries.map bareTopEntry)).map (·.1) = (declarations entries).map (·.1) := by
  rw [declarations_bareSource, List.map_map]
  rfl

section Built

variable {registered : Catalog Node} {limit : Nat}
  (once : ((declarations entries).map (·.1)).Nodup)
  (explicit : ∀ body, IsBody entries body → Explicit body)

theorem declares_bareSource_iff {name : String} :
    Declares (entries.map bareTopEntry) name body ↔
      ∃ own, Declares entries name own ∧ bareDefinition own = body := by
  simp only [← mem_declarations_iff, declarations_bareSource, List.mem_map, Prod.mk.injEq,
    Prod.exists]
  constructor
  · rintro ⟨_, own, member, rfl, same⟩
    exact ⟨own, member, same⟩
  · rintro ⟨own, member, same⟩
    exact ⟨name, own, member, rfl, same⟩

include once

theorem once_bareSource : ((declarations (entries.map bareTopEntry)).map (·.1)).Nodup := by
  rw [declaredNames_bareSource]
  exact once

theorem names_bareSource :
    ∀ name, name ∈ (fragments (entries.map bareTopEntry)).names ↔
      name ∈ (fragments entries).names := by
  intro name
  have still := once_bareSource once
  rw [mem_names_fragments_iff still, mem_names_fragments_iff once]
  simp only [declares_bareSource_iff]
  constructor
  · rintro ⟨_, own, declares, _⟩
    exact ⟨own, declares⟩
  · rintro ⟨own, declares⟩
    exact ⟨_, own, declares, rfl⟩

include explicit

/-- The definitions of a source are read from its bare form as before. -/
theorem scope_bareSource :
    scope registered limit (entries.map bareTopEntry) = scope registered limit entries := by
  have still := once_bareSource once
  have declared : (scope registered limit (entries.map bareTopEntry)).declared =
      (scope registered limit entries).declared := by
    refine Catalog.ext_find? fun name definition => ?_
    rw [scope_declared_iff still, scope_declared_iff once]
    simp only [declares_bareSource_iff]
    constructor
    · rintro ⟨_, ⟨own, declares, rfl⟩, rfl⟩
      exact ⟨own, declares,
        (Definition.read_bareDefinition limit _ 0 (explicit own (.inr ⟨name, declares⟩))).symm⟩
    · rintro ⟨own, declares, rfl⟩
      exact ⟨_, ⟨own, declares, rfl⟩,
        Definition.read_bareDefinition limit _ 0 (explicit own (.inr ⟨name, declares⟩))⟩
  change Scope.mk registered _ = Scope.mk registered _
  exact congrArg _ declared

omit once in
theorem body_bareSource : Source.body limit (entries.map bareTopEntry) = Source.body limit entries := by
  rw [Source.body, remaining_bareSource]
  exact Definition.read_bareDefinition limit _ 0 (explicit _ (.inl rfl))

end Built

theorem Reaches.holds (reaches : Reaches value found) : value.Holds (.map found) := by
  induction reaches with
  | here entries => exact .here _
  | within inside _ below =>
      cases inside with
      | field _ stored member =>
          obtain ⟨_, inEntries, _⟩ := (Entries.get?_eq_some_iff.mp stored).mem
          exact .stored inEntries (.stored member below)
      | variant _ stored member =>
          obtain ⟨_, inEntries, _⟩ := (Entries.get?_eq_some_iff.mp stored).mem
          exact .stored inEntries (.item member below)

theorem IsBody.distinct (distinct : (Value.map entries).Distinct) (isBody : IsBody entries body) :
    body.Distinct := by
  obtain ⟨here, below⟩ := Value.everywhere_map_iff.mp distinct
  rcases isBody with rfl | ⟨name, key, member, _⟩
  · refine Value.everywhere_map_iff.mpr ⟨here.sublist List.filter_sublist, fun entry member => ?_⟩
    exact below entry (List.mem_filter.mp member).1
  · exact (below _ member).2

theorem Explicit.of_everywhere (everywhere : value.Everywhere Entries.Explicit) : Explicit value :=
  fun found reaches => everywhere found reaches.holds

theorem KeywordsExplicit.of_everywhere {source : Value}
    (everywhere : source.Everywhere Entries.Explicit) : KeywordsExplicit source := by
  rintro entries rfl body isBody
  obtain ⟨here, below⟩ := Value.everywhere_map_iff.mp everywhere
  refine .of_everywhere ?_
  rcases isBody with rfl | ⟨name, key, member, _⟩
  · refine Value.everywhere_map_iff.mpr ⟨fun entry kept => ?_, fun entry kept => ?_⟩
    · exact here entry (List.mem_filter.mp kept).1
    · exact below entry (List.mem_filter.mp kept).1
  · exact (below _ member).2

/-- Fragments have names of their own, so that only other keys could be equal. -/
theorem distinct_top (once : ((declarations entries).map (·.1)).Nodup)
    (rest : (bareKeys (remaining entries)).Distinct) : (bareKeys entries).Distinct := by
  rw [distinct_bareKeys_iff] at rest ⊢
  unfold remaining at rest
  rw [List.pairwise_filter] at rest
  unfold declarations at once
  rw [List.Nodup, List.pairwise_map, List.pairwise_filterMap] at once
  refine (once.and rest).imp fun {earlier later} both => ?_
  by_contra same
  rw [Bool.not_eq_false] at same
  have texts := Value.text?_eq_of_same same
  have names : fragmentName? earlier.1 = fragmentName? later.1 := by
    rw [fragmentName?, texts, fragmentName?]
  cases named : fragmentName? later.1 with
  | none =>
      rw [named] at names
      have different := both.2 (by simp [names]) (by simp [named])
      exact absurd same (by simp [different])
  | some name =>
      rw [named] at names
      exact both.1 (name, earlier.2) (by simp [names]) (name, later.2) (by simp [named]) rfl

end Source

namespace Schema

variable {registry : Registry}

/-- Where every keyword is written without a tag, tags on other keys make no difference, and
what builds has no two keys that only a tag keeps apart: at its top, in a definition or in a
range.  Field names are not compared, so that a table of fields may have two such keys. -/
theorem ofSource_bareSource {source : Value} (explicit : Source.KeywordsExplicit source)
    (distinct : source.Distinct) :
    (∀ schema, ofSource registry (Source.bareSource source) = .ok schema ↔
        ofSource registry source = .ok schema) ∧
      ∀ schema, ofSource registry source = .ok schema →
        ∃ entries, source = .map entries ∧ Source.KeysApart entries := by
  constructor
  · intro schema
    cases source with
    | map entries =>
        have bodies := explicit entries rfl
        simp only [Source.bareSource, ofSource_eq_ok_iff, Value.map.injEq, exists_eq_left',
          Source.declarations_bareSource, List.forall_mem_map, List.map_map, Function.comp_def]
        refine and_congr_right fun _ => and_congr_right fun once => ?_
        simp only [Source.names_bareSource once, Source.scope_bareSource once bodies,
          Source.body_bareSource bodies]
    | _ => rfl
  · intro schema made
    obtain ⟨entries, rfl, _, once, _, buildable, sound, _⟩ :=
      ofSource_succeeds_iff_buildable.mp ⟨schema, made⟩
    have bodies := explicit entries rfl
    have read (body : Value) (isBody : Source.IsBody entries body) (found : Entries)
        (reaches : Source.Reaches body found) :
        ∃ path heading, Heading.read path found = .ok heading := by
      rcases isBody with rfl | ⟨name, declares⟩
      · exact Definition.read_of_reaches sound reaches
      · exact Definition.read_of_reaches
          (buildable.sound name _ ((Source.scope_declared_iff once).mpr ⟨body, declares, rfl⟩)) reaches
    have definition (body : Value) (isBody : Source.IsBody entries body) (found : Entries)
        (reaches : Source.Reaches body found) : (Source.bareKeys found).Distinct := by
      obtain ⟨path, heading, done⟩ := read body isBody found reaches
      exact Source.distinct_of_read (bodies body isBody found reaches)
        (isBody.distinct distinct found reaches.holds) done
    refine ⟨entries, rfl, ⟨?_, definition, ?_⟩⟩
    · exact Source.distinct_top once (definition _ (.inl rfl) _ (.here _))
    · intro body isBody found reaches bounds ranged
      obtain ⟨path, heading, done⟩ := read body isBody found reaches
      obtain ⟨range, isRange⟩ := Heading.rangeOf_of_read done ranged
      exact Source.distinct_of_rangeOf isRange

/-- Tags on the name of a fragment, on the name of a field and on a bound. -/
def markedSource : Value := .map
  [(.tagged "!mark" (.string "schema;size"), .map [(.string "type", .string "int"),
      (.string "range", .map [(.tagged "!mark" (.string "min"), .int 1)])]),
    (.string "mapping", .map
      [(.tagged "!mark" (.string "width"), .map [(.string "include", .string "size")])])]

theorem ofSource_bareSource_marked :
    ∃ schema, ofSource .empty markedSource = .ok schema ∧
      ofSource .empty (Source.bareSource markedSource) = .ok schema ∧
      ∃ entries, markedSource = .map entries ∧ Source.KeysApart entries := by
  have explicit : Source.KeywordsExplicit markedSource := by
    refine .of_everywhere ?_
    simp [markedSource, Value.everywhere_map_iff, Value.everywhere_tagged_iff,
      Value.everywhere_scalar, Entries.Explicit, Heading.isKnown, Heading.keywordOf,
      Value.text?, Value.content, Heading.keywords]
  have distinct : markedSource.Distinct := by
    simp [markedSource, Value.Distinct, Value.everywhere_map_iff, Value.everywhere_tagged_iff,
      Value.everywhere_scalar, Entries.Distinct, Value.same]
  have builds : (ofSource .empty markedSource).isOk = true := by
    decide +kernel
  obtain ⟨schema, made⟩ := exists_of_isOk builds
  obtain ⟨same, apart⟩ := ofSource_bareSource explicit distinct
  exact ⟨schema, made, (same schema).mpr made, apart schema made⟩

/-- A tagged keyword passes the check of the keywords and is then passed over, and a tag makes
two fields of one name out of two equal keys. -/
theorem ofSource_passes_over_marked_keywords :
    let typed : Value := .map [(.tagged "!mark" (.string "type"), .string "int")]
    let fields : Entries := [(.string "a", .map [(.string "type", .string "int")]),
      (.tagged "!mark" (.string "a"), .map [(.string "type", .string "str")])]
    (ofSource .empty typed).toOption.map (·.root.shape) = some "str" ∧
      (ofSource .empty (Source.bareSource typed)).toOption.map (·.root.shape) = some "int" ∧
      (ofSource .empty (.map [(.string "mapping", .map fields)])).isOk = true ∧
      ¬ (Source.bareKeys fields).Distinct := by
  intro typed fields
  refine ⟨by decide +kernel, by decide +kernel, by decide +kernel, ?_⟩
  simp [fields, Source.bareKeys, Entries.Distinct, Value.content, Value.same]

end Schema
end DocShape
