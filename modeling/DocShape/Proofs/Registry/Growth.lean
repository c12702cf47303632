import DocShape.Domain
import DocShape.Proofs.Linking.Fragments

namespace DocShape

/-! How a registry grows: fragments are added under free names, with all their includes
standing for fragments that are then registered, and whatever was there stays as it was.
-/

namespace Source

/-- The source declares a fragment of this name. -/
def Defines (source : Value) (name : String) : Prop :=
  ∃ entries body, source = .map entries ∧ Declares entries name body

theorem contains_iff_defines {source : Value} {declared : Catalog Value}
    (done : fragmentsOf source = .ok declared) {name : String} :
    declared.contains name = true ↔ Defines source name := by
  obtain ⟨entries, rfl, _, distinct, _, rfl⟩ := fragmentsOf_eq_ok_iff.mp done
  rw [Catalog.contains_iff, ← Catalog.mem_names_iff, mem_names_fragments_iff distinct]
  simp only [Defines, Value.map.injEq, exists_and_left, exists_eq_left']

end Source

namespace Registry

variable {registry between grown : Registry} {declared : Catalog Value} {names : List String}

/-- What an include stands for where only registered fragments can be named. -/
def target (registry : Registry) (name : String) : Except SchemaError Node :=
  match registry.get? name with
  | some node => .ok node
  | none => .error (.unresolvedInclude name)

theorem target_eq_ok_iff {name : String} {node : Node} :
    registry.target name = .ok node ↔ registry.get? name = some node := by
  unfold target
  cases registry.get? name <;> simp

theorem contains_iff_get? {name : String} :
    registry.contains name = true ↔ ∃ node, registry.get? name = some node :=
  Catalog.contains_iff

/-- The second registry has the configuration of the first and each of its fragments as it
is. -/
structure Within (registry grown : Registry) : Prop where
  config : grown.config = registry.config
  keeps : ∀ name node, registry.get? name = some node → grown.get? name = some node

theorem Within.refl (registry : Registry) : registry.Within registry :=
  ⟨rfl, fun _ _ found => found⟩

theorem Within.trans (first : registry.Within between) (second : between.Within grown) :
    registry.Within grown :=
  ⟨second.config.trans first.config,
    fun name node found => second.keeps name node (first.keeps name node found)⟩

/-- What is registered under the name is built from this body, whose includes stand for
registered fragments. -/
def Realizes (registry : Registry) (name : String) (body : Value) : Prop :=
  ∃ node, registry.get? name = some node ∧
    (Definition.read registry.config.maxDepth (Source.fragmentPath name) 0 body).expand
      registry.target = .ok node

theorem Within.realizes (within : registry.Within grown) {name : String} {body : Value}
    (realizes : registry.Realizes name body) : grown.Realizes name body := by
  obtain ⟨node, found, expanded⟩ := realizes
  refine ⟨node, within.keeps name node found, ?_⟩
  rw [within.config]
  refine Definition.expand_mono (fun inner target stands => ?_) expanded
  exact target_eq_ok_iff.mpr (within.keeps inner target (target_eq_ok_iff.mp stands))

/-- The registry has grown by exactly these declared fragments. -/
structure Absorbs (registry : Registry) (declared : Catalog Value) (grown : Registry) : Prop
    extends Within registry grown where
  free : ∀ name, declared.contains name = true → registry.contains name = false
  contains : ∀ name, grown.contains name = (declared.contains name || registry.contains name)
  realizes : ∀ name body, declared.find? name = some body → grown.Realizes name body

theorem absorb_eq_ok_iff :
    registry.absorb declared = .ok (grown, names) ↔
      (∀ name ∈ declared.names, registry.fragments.contains name = false) ∧
        ∃ built, (Source.scopeWith registry.fragments registry.config.maxDepth
            declared).buildDeclared .empty = .ok ((), built) ∧
          { registry with fragments := registry.fragments.extend built } = grown ∧
          built.names = names := by
  simp only [absorb, StateT.run, bind_eq_ok, pure_eq_ok, Prod.exists, Prod.mk.injEq]
  constructor
  · rintro ⟨_, settled, _, built, filled, rfl, rfl⟩
    obtain ⟨free, rfl⟩ := Source.scopeOf_eq_ok_iff.mp settled
    exact ⟨free, built, filled, rfl, rfl⟩
  · rintro ⟨free, built, filled, rfl, rfl⟩
    exact ⟨_, Source.scopeOf_eq_ok_iff.mpr ⟨free, rfl⟩, (), built, filled, rfl, rfl⟩

/-- While fragments are built an include stands for what it stands for in the grown
registry. -/
theorem available_iff_extend {limit : Nat} {registered built : Catalog Node} {name : String}
    {node : Node}
    (complete : ∀ name, built.contains name = declared.contains name) :
    (Source.scopeWith registered limit declared).available built name = .ok node ↔
      (registered.extend built).find? name = some node := by
  rw [Scope.available_eq_ok_iff, Source.contains_scopeWith, Catalog.find?_extend, ← complete name]
  cases found : built.find? name with
  | some stored =>
      have contained : built.contains name = true := Catalog.contains_iff.mpr ⟨stored, found⟩
      simp [contained]
  | none => simp [Catalog.find?_eq_none_iff.mp found, Source.scopeWith]

theorem absorbs_of_absorb (done : registry.absorb declared = .ok (grown, names)) :
    registry.Absorbs declared grown ∧ names.Pairwise (· < ·) ∧
      ∀ name, name ∈ names ↔ declared.contains name = true := by
  obtain ⟨free, built, filled, rfl, rfl⟩ := absorb_eq_ok_iff.mp done
  obtain ⟨advances, present⟩ := Scope.buildDeclared_fills Scope.linked_empty filled
  have complete (name : String) : built.contains name = declared.contains name := by
    rw [Scope.contains_of_filled advances.linked present, Source.contains_scopeWith]
  have isFree (name : String) (isDeclared : declared.contains name = true) :
      registry.fragments.contains name = false :=
    free name (Catalog.mem_names_iff.mpr (Catalog.contains_iff.mp isDeclared))
  refine ⟨?_, Catalog.names_pairwise, fun name => ?_⟩
  · constructor
    case toWithin =>
      refine ⟨rfl, fun name node found => ?_⟩
      have absent : built.contains name = false := by
        rw [complete, ← Bool.not_eq_true]
        intro isDeclared
        rw [Registry.get?, Catalog.find?_eq_none_iff.mpr (isFree name isDeclared)] at found
        cases found
      rw [Registry.get?, Catalog.find?_extend, Catalog.find?_eq_none_iff.mpr absent]
      exact found
    case free => exact isFree
    case contains =>
      intro name
      rw [Registry.contains, Catalog.contains_extend, complete]
      rfl
    case realizes =>
      intro name body isBody
      obtain ⟨node, found⟩ := present name (Catalog.contains_iff.mpr
        ⟨_, Source.declared_scopeWith_iff.mpr ⟨body, isBody, rfl⟩⟩)
      obtain ⟨definition, isDeclared, expanded⟩ := advances.linked name node found
      obtain ⟨own, same, rfl⟩ := Source.declared_scopeWith_iff.mp isDeclared
      cases isBody.symm.trans same
      refine ⟨node, ?_, Definition.expand_mono (fun inner target stands => ?_) expanded⟩
      · rw [Registry.get?, Catalog.find?_extend, found, Option.some_or]
      · exact target_eq_ok_iff.mpr ((available_iff_extend complete).mp stands)
  · rw [Catalog.mem_names_iff, ← Catalog.contains_iff, complete]

theorem absorbs_of_registerSource {source : Value}
    (done : registry.registerSource source = .ok (grown, names)) :
    ∃ declared, registry.Absorbs declared grown ∧
      (∀ name, declared.contains name = true ↔ Source.Defines source name) ∧
      names.Pairwise (· < ·) ∧ ∀ name, name ∈ names ↔ Source.Defines source name := by
  obtain ⟨declared, isDeclared, absorbed⟩ := bind_eq_ok.mp done
  obtain ⟨absorbs, sorted, reported⟩ := absorbs_of_absorb absorbed
  have defines (name : String) : declared.contains name = true ↔ Source.Defines source name :=
    Source.contains_iff_defines isDeclared
  exact ⟨declared, absorbs, defines, sorted, fun name => (reported name).trans (defines name)⟩

end Registry

namespace Domain

variable {registry linked : Registry}

theorem defines_responses_iff {name : String} :
    Source.Defines responsesSource name ↔ name = responsesName := by
  simp [Source.Defines, Source.Declares, responsesSource, mapping, Value.text?, Value.content,
    Source.fragmentPath, eq_comm]

theorem link_eq_ok_iff :
    link registry = .ok linked ↔
      registry.contains responsesName = true ∧ registry = linked ∨
        registry.contains responsesName = false ∧
          ∃ names, registry.registerSource responsesSource = .ok (linked, names) := by
  unfold link
  cases registry.contains responsesName with
  | true => simp
  | false =>
      cases registry.registerSource responsesSource with
      | error error => simp [Except.map]
      | ok found =>
          obtain ⟨grown, names⟩ := found
          simp [Except.map]

/-- Linking adds at most the fragment for responses. -/
theorem link_within (done : link registry = .ok linked) :
    registry.Within linked ∧ linked.contains responsesName = true ∧
      ∀ name, linked.contains name = true →
        registry.contains name = true ∨ name = responsesName := by
  rcases link_eq_ok_iff.mp done with ⟨contained, rfl⟩ | ⟨_, names, registered⟩
  · exact ⟨.refl registry, contained, fun _ => .inl⟩
  · obtain ⟨declared, absorbs, defines, _⟩ := Registry.absorbs_of_registerSource registered
    refine ⟨absorbs.toWithin, ?_, fun name contained => ?_⟩
    · rw [absorbs.contains, (defines responsesName).mpr (defines_responses_iff.mpr rfl),
        Bool.true_or]
    · rw [absorbs.contains, Bool.or_eq_true] at contained
      rcases contained with isDeclared | earlier
      · exact .inr (defines_responses_iff.mp ((defines name).mp isDeclared))
      · exact .inl earlier

end Domain
end DocShape
