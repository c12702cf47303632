import DocShape.Proofs.Linking.Fragments
import DocShape.Proofs.Linking.Mentions

namespace DocShape

/-! Which sources make a schema. -/

namespace Grammar

/-- Fragments have names of their own, every body is a definition, and the includes in them
lead to fragments without coming back to where they started. -/
@[mk_iff]
structure IsSource (registry : Registry) (entries : Entries) : Prop where
  named : ∀ name body, Source.Declares entries name body →
    name ≠ "" ∧ registry.contains name = false
  fragment : ∀ name body, Source.Declares entries name body →
    IsDefinition registry.config.maxDepth body
  body : IsDefinition registry.config.maxDepth (.map (Source.remaining entries))
  known : ∀ name, (Source.Mentions (.map (Source.remaining entries)) name ∨
      ∃ outer, Source.Includes (Source.Declares entries) outer name) →
    (∃ body, Source.Declares entries name body) ∨ registry.contains name = true
  acyclic : ∀ name, ¬ Relation.TransGen (Source.Includes (Source.Declares entries)) name name

end Grammar

namespace Source

variable {entries : Entries} {registered : Catalog Node} {limit : Nat}

theorem declarations_nodup (distinct : entries.Distinct)
    (untagged : (Value.map entries).untagged = true) :
    ((declarations entries).map (·.1)).Nodup := by
  unfold declarations
  rw [List.Nodup, List.pairwise_map, List.pairwise_filterMap]
  refine List.Pairwise.imp_of_mem ?_ distinct
  intro earlier later earlierMember laterMember different first isFirst second isSecond same
  have plain := Value.untagged_map_iff.mp untagged
  obtain ⟨name, named, rfl⟩ := Option.map_eq_some_iff.mp isFirst
  obtain ⟨other, otherNamed, rfl⟩ := Option.map_eq_some_iff.mp isSecond
  rw [fragmentName?_eq_some_iff, Value.text?_eq_some_iff_of_untagged (plain _ earlierMember).1]
    at named
  rw [fragmentName?_eq_some_iff, Value.text?_eq_some_iff_of_untagged (plain _ laterMember).1]
    at otherNamed
  simp only at same
  rw [named, otherNamed, same] at different
  simp [Value.same] at different

theorem Declares.untagged {name : String} {body : Value} (declares : Declares entries name body)
    (untagged : (Value.map entries).untagged = true) : body.untagged = true := by
  obtain ⟨key, member, _⟩ := declares
  exact (Value.untagged_map_iff.mp untagged _ member).2

theorem remaining_untagged (untagged : (Value.map entries).untagged = true) :
    (Value.map (remaining entries)).untagged = true := by
  rw [Value.untagged_map_iff] at untagged ⊢
  intro entry member
  exact untagged entry (List.mem_filter.mp member).1

section Correspondence

variable (once : ((declarations entries).map (·.1)).Nodup)
  (untagged : (Value.map entries).untagged = true)

include once in
theorem scope_knows_iff {name : String} :
    (scope registered limit entries).Knows name ↔
      (∃ body, Declares entries name body) ∨ registered.contains name = true := by
  rw [Scope.Knows, scope_contains_iff once, scope]

include once untagged in
theorem scope_sound_iff (registered : Catalog Node) :
    (∀ name definition, (scope registered limit entries).declared.find? name = some definition →
        definition.Sound) ↔
      ∀ name body, Declares entries name body → Grammar.IsDefinition limit body := by
  have ofBody {name : String} {body : Value} (declares : Declares entries name body) :
      (Definition.read limit (fragmentPath name) 0 body).Sound ↔ Grammar.IsDefinition limit body :=
    Definition.read_sound_iff limit (Nat.zero_add limit) (declares.untagged untagged)
  constructor
  · intro sound name body declares
    exact (ofBody declares).mp
      (sound name _ ((scope_declared_iff once).mpr ⟨body, declares, rfl⟩))
  · intro each name definition declared
    obtain ⟨body, declares, rfl⟩ := (scope_declared_iff once).mp declared
    exact (ofBody declares).mpr (each name body declares)

include once untagged in
theorem scope_buildable_iff :
    (scope registered limit entries).Buildable ↔
      (∀ name body, Declares entries name body → Grammar.IsDefinition limit body) ∧
      (∀ outer name, Includes (Declares entries) outer name →
        (∃ body, Declares entries name body) ∨ registered.contains name = true) ∧
      ∀ name, ¬ Relation.TransGen (Includes (Declares entries)) name name := by
  rw [Scope.buildable_iff, ← scope_sound_iff once untagged registered]
  refine and_congr_right fun sound => ?_
  have same : (scope registered limit entries).Includes = Includes (Declares entries) :=
    Scope.includes_eq (fun _ _ => scope_declared_iff once) sound
  simp only [same, scope_knows_iff once]

end Correspondence

end Source

namespace Schema

variable {registry : Registry} {entries : Entries}

/-- A source is accepted if what can be built is, and nothing else stands in the way. -/
theorem ofSource_succeeds_iff_buildable {source : Value} :
    (∃ schema, ofSource registry source = .ok schema) ↔
      ∃ entries, source = .map entries ∧
        (∀ declaration ∈ Source.declarations entries, declaration.1 ≠ "") ∧
        ((Source.declarations entries).map (·.1)).Nodup ∧
        (∀ name ∈ (Source.fragments entries).names, registry.fragments.contains name = false) ∧
        (Source.scope registry.fragments registry.config.maxDepth entries).Buildable ∧
        (Source.body registry.config.maxDepth entries).Sound ∧
        ∀ name, (Source.body registry.config.maxDepth entries).Includes name →
          (Source.scope registry.fragments registry.config.maxDepth entries).Knows name := by
  constructor
  · intro ⟨schema, made⟩
    obtain ⟨entries, rfl, nonempty, distinct, free, built, filled, root, fragments, linkedRoot, _⟩ :=
      ofSource_eq_ok_iff.mp made
    obtain ⟨toBuilt, present⟩ := Scope.buildDeclared_fills Scope.linked_empty filled
    obtain ⟨toFragments, expanded⟩ :=
      Scope.link_built (Scope.resolve_resolves _ []) _ _ _ _ toBuilt.linked linkedRoot
    refine ⟨entries, rfl, nonempty, distinct, free, Scope.buildable_of_filled toBuilt.linked present,
      Definition.sound_of_expand expanded, fun name includes => ?_⟩
    obtain ⟨target, below⟩ := Definition.includes_of_expand expanded includes
    exact Scope.knows_of_available (Definition.lookUp_of_includes expanded below)
  · intro ⟨entries, isMap, nonempty, distinct, free, buildable, sound, known⟩
    obtain ⟨_, built, filled⟩ := Scope.buildDeclared_total buildable .empty
    obtain ⟨root, fragments, linkedRoot⟩ := Scope.build_total buildable sound known built
    exact ⟨_, ofSource_eq_ok_iff.mpr
      ⟨entries, isMap, nonempty, distinct, free, built, filled, root, fragments, linkedRoot, rfl⟩⟩

/-- Without tags, the sources that are accepted are those of the grammar. -/
theorem ofSource_succeeds_iff {source : Value} (untagged : source.untagged = true)
    (distinct : ∀ entries : Entries, source = .map entries → entries.Distinct) :
    (∃ schema, ofSource registry source = .ok schema) ↔
      ∃ entries, source = .map entries ∧ Grammar.IsSource registry entries := by
  rw [ofSource_succeeds_iff_buildable]
  refine exists_congr fun entries => and_congr_right fun isMap => ?_
  subst isMap
  have once := Source.declarations_nodup (distinct entries rfl) untagged
  have rest := Source.remaining_untagged untagged
  have bodySound : (Source.body registry.config.maxDepth entries).Sound ↔
      Grammar.IsDefinition registry.config.maxDepth (.map (Source.remaining entries)) :=
    Definition.read_sound_iff _ (Nat.zero_add _) rest
  have bodyIncludes (sound : (Source.body registry.config.maxDepth entries).Sound) (name : String) :
      (Source.body registry.config.maxDepth entries).Includes name ↔
        Source.Mentions (.map (Source.remaining entries)) name :=
    Definition.includes_iff_mentions sound
  rw [Source.scope_buildable_iff once untagged, Grammar.isSource_iff]
  constructor
  · intro ⟨nonempty, _, free, ⟨fragment, known, acyclic⟩, sound, knownInBody⟩
    refine ⟨?_, fragment, bodySound.mp sound, ?_, acyclic⟩
    · intro name body declares
      exact ⟨nonempty (name, body) (Source.mem_declarations_iff.mpr declares),
        free name ((Source.mem_names_fragments_iff once).mpr ⟨body, declares⟩)⟩
    · intro name includes
      rcases includes with inBody | ⟨outer, inFragment⟩
      · exact (Source.scope_knows_iff once).mp
          (knownInBody name ((bodyIncludes sound name).mpr inBody))
      · exact known outer name inFragment
  · intro ⟨named, fragment, isDefinition, known, acyclic⟩
    have sound := bodySound.mpr isDefinition
    refine ⟨?_, once, ?_, ⟨fragment, ?_, acyclic⟩, sound, ?_⟩
    · intro declaration member
      exact (named declaration.1 declaration.2 (Source.mem_declarations_iff.mp member)).1
    · intro name member
      obtain ⟨body, declares⟩ := (Source.mem_names_fragments_iff once).mp member
      exact (named name body declares).2
    · intro outer name includes
      exact known name (.inr ⟨outer, includes⟩)
    · intro name includes
      exact (Source.scope_knows_iff once).mpr
        (known name (.inl ((bodyIncludes sound name).mp includes)))

theorem ofSource_succeeds_iff_forward :
    ∃ entries, forwardSource = .map entries ∧ Grammar.IsSource forwardRegistry entries := by
  have untagged : forwardSource.untagged = true := by
    decide +kernel
  refine (ofSource_succeeds_iff untagged fun entries same => ?_).mp ?_
  · cases same
    simp [Entries.Distinct, Value.same]
  · have built : (ofSource forwardRegistry forwardSource).isOk = true := by
      decide +kernel
    cases made : ofSource forwardRegistry forwardSource with
    | error error =>
        rw [made] at built
        cases built
    | ok schema => exact ⟨schema, rfl⟩

end Schema
end DocShape
