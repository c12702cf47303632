import DocShape.Proofs.Linking.Rebuilding
import Mathlib.Logic.Relation
import Mathlib.Tactic.MkIffOfInductiveProp

namespace DocShape

/-! When linking succeeds: all definitions are without fault, every include names something,
and no fragment includes itself, however indirectly.

In one direction the open fragments are a chain of includes, which cannot close.  In the
other the trees get smaller along every include.
-/

/-- The computation gives a result whatever was built before. -/
def Linking.Total {α : Type} (computation : Linking α) : Prop :=
  ∀ before, ∃ result after, computation before = .ok (result, after)

namespace Definition

variable {lookUp : String → Except SchemaError Node} {definition : Definition} {node : Node}

theorem sound_of_expand (expanded : definition.expand lookUp = .ok node) : definition.Sound := by
  induction definition using Definition.induction generalizing node with
  | refused error => exact absurd expanded expand_refused_ne_ok
  | included name => exact .included name
  | map definitions allowEmpty ofField =>
      obtain ⟨fields, related, _⟩ := expand_map_eq_ok_iff.mp expanded
      refine sound_map_iff.mpr fun definition member => ?_
      obtain ⟨field, _, expandedField, labelled⟩ := result_of_mem related member
      exact ⟨ofField definition member expandedField, _, labelled⟩
  | seq definitions matching ofVariant =>
      obtain ⟨variants, related, _⟩ := expand_seq_eq_ok_iff.mp expanded
      refine sound_seq_iff.mpr fun definition member => ?_
      obtain ⟨variant, _, expandedVariant⟩ := result_of_mem related member
      exact ofVariant definition member expandedVariant
  | scalar leaf => exact .scalar leaf

/-- Each include in a definition is one in the built tree. -/
theorem includes_of_expand {name : String} (expanded : definition.expand lookUp = .ok node)
    (includes : definition.Includes name) : ∃ target, node.Includes name target := by
  induction includes generalizing node with
  | here name =>
      obtain ⟨target, _, rfl⟩ := expand_included_eq_ok_iff.mp expanded
      exact ⟨target, .here name target⟩
  | field member _ ofField =>
      obtain ⟨fields, related, rfl⟩ := expand_map_eq_ok_iff.mp expanded
      obtain ⟨field, inFields, expandedField, _⟩ := result_of_mem related member
      obtain ⟨target, below⟩ := ofField expandedField
      exact ⟨target, .field inFields below⟩
  | variant member _ ofVariant =>
      obtain ⟨variants, related, rfl⟩ := expand_seq_eq_ok_iff.mp expanded
      obtain ⟨variant, inVariants, expandedVariant⟩ := result_of_mem related member
      obtain ⟨target, below⟩ := ofVariant expandedVariant
      exact ⟨target, .variant inVariants below⟩

section Link

variable {resolve : String → Linking Node}

theorem linkFields_total
    {definitions : List (Definition × Except SchemaError (FieldKey × Bool))}
    (ofField : ∀ field ∈ definitions, Linking.Total (field.1.link resolve))
    (labelled : ∀ field ∈ definitions, ∃ label, field.2 = .ok label) :
    Linking.Total (linkFields resolve definitions) := by
  induction definitions with
  | nil => exact fun before => ⟨[], before, rfl⟩
  | cons first rest inRest =>
      intro before
      obtain ⟨ofFirst, ofOthers⟩ := List.forall_mem_cons.mp ofField
      obtain ⟨⟨⟨key, required⟩, label⟩, labels⟩ := List.forall_mem_cons.mp labelled
      obtain ⟨node, between, linked⟩ := ofFirst before
      obtain ⟨others, after, remaining⟩ := inRest ofOthers labels between
      refine ⟨⟨key, required, node⟩ :: others, after, ?_⟩
      simp only [linkFields, Linking.bind_eq_ok, Linking.ofExcept_eq_ok, Linking.pure_eq_ok]
      exact ⟨node, between, linked, (key, required), between, ⟨label, rfl⟩, others, after, remaining,
        rfl, rfl⟩

theorem linkVariants_total {definitions : List Definition}
    (ofVariant : ∀ variant ∈ definitions, Linking.Total (variant.link resolve)) :
    Linking.Total (linkVariants resolve definitions) := by
  induction definitions with
  | nil => exact fun before => ⟨[], before, rfl⟩
  | cons first rest inRest =>
      intro before
      obtain ⟨ofFirst, ofOthers⟩ := List.forall_mem_cons.mp ofVariant
      obtain ⟨node, between, linked⟩ := ofFirst before
      obtain ⟨others, after, remaining⟩ := inRest ofOthers between
      refine ⟨node :: others, after, ?_⟩
      simp only [linkVariants, Linking.bind_eq_ok, Linking.pure_eq_ok]
      exact ⟨node, between, linked, others, after, remaining, rfl, rfl⟩

theorem link_total (sound : definition.Sound)
    (resolves : ∀ name, definition.Includes name → Linking.Total (resolve name)) :
    Linking.Total (definition.link resolve) := by
  induction definition using Definition.induction with
  | refused error => exact absurd sound not_sound_refused
  | included name =>
      intro before
      obtain ⟨target, after, found⟩ := resolves name (.here name) before
      refine ⟨.included name target, after, ?_⟩
      simp only [link, Linking.bind_eq_ok, Linking.pure_eq_ok]
      exact ⟨target, after, found, rfl, rfl⟩
  | map definitions allowEmpty ofField =>
      have each := sound_map_iff.mp sound
      intro before
      obtain ⟨fields, after, linked⟩ := linkFields_total
        (fun field member => ofField field member (each field member).1
          fun name includes => resolves name (.field member includes))
        (fun field member => (each field member).2) before
      refine ⟨.map fields allowEmpty, after, ?_⟩
      simp only [link, Linking.bind_eq_ok, Linking.pure_eq_ok]
      exact ⟨fields, after, linked, rfl, rfl⟩
  | seq definitions matching ofVariant =>
      have each := sound_seq_iff.mp sound
      intro before
      obtain ⟨variants, after, linked⟩ := linkVariants_total
        (fun variant member => ofVariant variant member (each variant member)
          fun name includes => resolves name (.variant member includes)) before
      refine ⟨.seq variants matching, after, ?_⟩
      simp only [link, Linking.bind_eq_ok, Linking.pure_eq_ok]
      exact ⟨variants, after, linked, rfl, rfl⟩
  | scalar leaf =>
      intro before
      exact ⟨.scalar leaf, before, rfl⟩

end Link
end Definition

namespace Scope

variable {scope : Scope} {built : Catalog Node}

/-- The body of the first fragment includes the second. -/
def Includes (scope : Scope) (outer inner : String) : Prop :=
  ∃ definition, scope.declared.find? outer = some definition ∧ definition.Includes inner

/-- An include of the name stands for something. -/
def Knows (scope : Scope) (name : String) : Prop :=
  scope.declared.contains name = true ∨ scope.registered.contains name = true

/-- All declared fragments can be built. -/
@[mk_iff]
structure Buildable (scope : Scope) : Prop where
  sound : ∀ name definition, scope.declared.find? name = some definition → definition.Sound
  known : ∀ outer inner, scope.Includes outer inner → scope.Knows inner
  acyclic : ∀ name, ¬ Relation.TransGen scope.Includes name name

theorem resolve_total (buildable : scope.Buildable) (room : Nat) (opened : List String)
    (name : String) (known : scope.Knows name) (fits : scope.Fits room opened)
    (around : ∀ other ∈ opened, Relation.TransGen scope.Includes other name) :
    Linking.Total (scope.resolve room opened name) := by
  intro before
  simp only [resolve_eq]
  cases before.find? name with
  | some node => exact ⟨node, before, rfl⟩
  | none =>
      -- Every opened fragment includes this one, so an opened one would include itself.
      have unopened : name ∉ opened := fun member => buildable.acyclic name (around name member)
      rw [if_neg (by simpa using unopened)]
      cases declared : scope.declared.find? name with
      | none =>
          have undeclared : ¬ scope.declared.contains name = true := by
            simp [Catalog.contains_eq_isSome_find?, declared]
          obtain ⟨node, registered⟩ := Catalog.contains_iff.mp (known.resolve_left undeclared)
          exact ⟨node, before, by simp only [registered]⟩
      | some definition =>
          obtain ⟨inner, rfl, fitsInside⟩ :=
            fits.insert unopened (Catalog.contains_iff.mpr ⟨definition, declared⟩)
          have ofIncluded (other : String) (includes : definition.Includes other) :
              Linking.Total (scope.resolve inner (opened ++ [name]) other) := by
            have edge : scope.Includes name other := ⟨definition, declared, includes⟩
            refine resolve_total buildable inner (opened ++ [name]) other
              (buildable.known name other edge) fitsInside ?_
            intro outer member
            rcases List.mem_append.mp member with earlier | here
            · exact .tail (around outer earlier) edge
            · cases List.mem_singleton.mp here
              exact .single edge
          obtain ⟨node, after, linked⟩ :=
            Definition.link_total (buildable.sound name definition declared) ofIncluded before
          exact ⟨node, after.insert name node, by simp only [linked]; rfl⟩
termination_by room

theorem lookUp_total (buildable : scope.Buildable) {name : String} (known : scope.Knows name) :
    Linking.Total (scope.lookUp name) := by
  refine resolve_total buildable scope.declared.size [] name known (fits_nil scope) ?_
  intro other member
  cases member

theorem build_total (buildable : scope.Buildable) {definition : Definition}
    (sound : definition.Sound) (known : ∀ name, definition.Includes name → scope.Knows name) :
    Linking.Total (scope.build definition) :=
  Definition.link_total sound fun name includes => lookUp_total buildable (known name includes)

theorem forM_lookUp_total (buildable : scope.Buildable) {names : List String}
    (known : ∀ name ∈ names, scope.Knows name) :
    Linking.Total (names.forM fun name => discard (scope.lookUp name)) := by
  induction names with
  | nil => exact fun before => ⟨(), before, rfl⟩
  | cons name rest inRest =>
      intro before
      obtain ⟨knownFirst, knownRest⟩ := List.forall_mem_cons.mp known
      obtain ⟨node, between, found⟩ := lookUp_total buildable knownFirst before
      obtain ⟨_, after, remaining⟩ := inRest knownRest between
      refine ⟨(), after, ?_⟩
      simp only [List.forM_eq_forM, List.forM_cons, Linking.bind_eq_ok, Linking.discard_eq_ok]
      exact ⟨(), between, ⟨node, found⟩, remaining⟩

theorem buildDeclared_total (buildable : scope.Buildable) : Linking.Total scope.buildDeclared := by
  apply forM_lookUp_total buildable
  intro name member
  exact .inl (Catalog.contains_iff.mpr (Catalog.mem_names_iff.mp member))

theorem knows_of_available {name : String} {node : Node}
    (found : scope.available built name = .ok node) : scope.Knows name := by
  rw [available_eq_ok_iff] at found
  by_cases declared : scope.declared.contains name = true
  · exact .inl declared
  · rw [if_neg declared] at found
    exact .inr (Catalog.contains_iff.mpr ⟨node, found⟩)

/-- Where every declared fragment was built, the tree of an included fragment is smaller. -/
theorem available_of_includes (linked : scope.Linked built)
    (filled : scope.Filled built)
    {outer inner : String} (edge : scope.Includes outer inner) :
    ∃ node target, scope.available built outer = .ok node ∧
      scope.available built inner = .ok target ∧ sizeOf target < sizeOf node := by
  obtain ⟨definition, declared, includes⟩ := edge
  obtain ⟨node, found⟩ := filled outer (Catalog.contains_iff.mpr ⟨definition, declared⟩)
  obtain ⟨own, same, expanded⟩ := linked outer node found
  cases declared.symm.trans same
  obtain ⟨target, below⟩ := Definition.includes_of_expand expanded includes
  exact ⟨node, target, available_of_find? linked found,
    Definition.lookUp_of_includes expanded below, below.sizeOf_lt⟩

theorem available_of_transGen (linked : scope.Linked built)
    (filled : scope.Filled built)
    {outer inner : String} (chain : Relation.TransGen scope.Includes outer inner) :
    ∃ node target, scope.available built outer = .ok node ∧
      scope.available built inner = .ok target ∧ sizeOf target < sizeOf node := by
  induction chain with
  | single edge => exact available_of_includes linked filled edge
  | tail _ edge upTo =>
      obtain ⟨node, middle, found, foundMiddle, smaller⟩ := upTo
      obtain ⟨again, target, foundAgain, foundTarget, smallerStill⟩ :=
        available_of_includes linked filled edge
      cases foundMiddle.symm.trans foundAgain
      exact ⟨node, target, found, foundTarget, Nat.lt_trans smallerStill smaller⟩

theorem buildable_of_filled (linked : scope.Linked built)
    (filled : scope.Filled built) : scope.Buildable := by
  constructor
  case sound =>
    intro name definition declared
    obtain ⟨node, found⟩ := filled name (Catalog.contains_iff.mpr ⟨definition, declared⟩)
    obtain ⟨own, same, expanded⟩ := linked name node found
    cases declared.symm.trans same
    exact Definition.sound_of_expand expanded
  case known =>
    intro outer inner edge
    obtain ⟨_, _, _, found, _⟩ := available_of_includes linked filled edge
    exact knows_of_available found
  case acyclic =>
    intro name cycle
    obtain ⟨node, target, found, again, smaller⟩ := available_of_transGen linked filled cycle
    cases found.symm.trans again
    exact Nat.lt_irrefl _ smaller

end Scope
end DocShape
