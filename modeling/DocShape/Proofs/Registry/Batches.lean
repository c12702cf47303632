import DocShape.Proofs.Linking.Success
import DocShape.Proofs.Registry.Growth
import DocShape.Schema.Loading
import Mathlib.Data.List.Perm.Basic

namespace DocShape

/-! Fragments registered source by source, and those of all sources at once.

What counts is the declarations put together: they do not depend on the order of the sources,
and with nothing else registered they determine every tree.  So the way in which an include
was resolved, through the registry or through a declaration beside it, leaves no trace.
-/

namespace Catalog

variable {α : Type} {first second whole other : Catalog α} {parts others : List (Catalog α)}

/-- No name is in both catalogs. -/
def Apart (first second : Catalog α) : Prop :=
  ∀ name, first.contains name = true → second.contains name = false

theorem Apart.symm (apart : first.Apart second) : second.Apart first := by
  intro name contained
  rw [← Bool.not_eq_true]
  intro inFirst
  rw [apart name inFirst] at contained
  cases contained

theorem apart_extend_iff :
    (first.extend second).Apart other ↔ first.Apart other ∧ second.Apart other := by
  simp only [Apart, contains_extend, Bool.or_eq_true, or_imp, forall_and]
  exact and_comm

theorem find?_extend_eq_some_iff (apart : first.Apart second) {name : String} {stored : α} :
    (first.extend second).find? name = some stored ↔
      first.find? name = some stored ∨ second.find? name = some stored := by
  rw [find?_extend, Option.or_eq_some_iff, find?_eq_none_iff, or_comm]
  refine or_congr_left (and_iff_right_of_imp fun found => ?_)
  exact apart name (contains_iff.mpr ⟨stored, found⟩)

/-- Catalogs without a common name, put together. -/
structure Joins (parts : List (Catalog α)) (whole : Catalog α) : Prop where
  apart : parts.Pairwise Apart
  stores : ∀ name stored,
    whole.find? name = some stored ↔ ∃ part ∈ parts, part.find? name = some stored

theorem Joins.perm (joins : Joins parts whole) (order : parts.Perm others) :
    Joins others whole := by
  constructor
  case apart => exact (order.pairwise_iff Apart.symm).mp joins.apart
  case stores =>
    intro name stored
    simp only [joins.stores, order.mem_iff]

theorem joins_singleton_iff : Joins [first] whole ↔ first = whole := by
  constructor
  · intro joins
    refine ext_find? fun name stored => ?_
    rw [joins.stores]
    simp
  · rintro rfl
    exact ⟨List.pairwise_singleton _ _, by simp⟩

theorem joins_cons_cons_iff :
    Joins (first :: second :: parts) whole ↔
      first.Apart second ∧ Joins (first.extend second :: parts) whole := by
  constructor
  · rintro ⟨apart, stores⟩
    obtain ⟨ofFirst, ofRest⟩ := List.pairwise_cons.mp apart
    obtain ⟨ofSecond, ofParts⟩ := List.pairwise_cons.mp ofRest
    have between := ofFirst second (by simp)
    refine ⟨between, List.pairwise_cons.mpr ⟨fun part member => ?_, ofParts⟩, ?_⟩
    · exact apart_extend_iff.mpr ⟨ofFirst part (List.mem_cons_of_mem _ member), ofSecond part member⟩
    · intro name stored
      rw [stores]
      simp only [List.mem_cons, exists_eq_or_imp, find?_extend_eq_some_iff between, or_assoc]
  · rintro ⟨between, apart, stores⟩
    obtain ⟨ofExtended, ofParts⟩ := List.pairwise_cons.mp apart
    have each (part : Catalog α) (member : part ∈ parts) :=
      apart_extend_iff.mp (ofExtended part member)
    refine ⟨List.pairwise_cons.mpr ⟨?_, List.pairwise_cons.mpr ⟨?_, ofParts⟩⟩, ?_⟩
    · exact List.forall_mem_cons.mpr ⟨between, fun part member => (each part member).1⟩
    · exact fun part member => (each part member).2
    · intro name stored
      rw [stores]
      simp only [List.mem_cons, exists_eq_or_imp, find?_extend_eq_some_iff between, or_assoc]

end Catalog

namespace Source

variable {sources others : List (Except SchemaError Value)} {collected found : Catalog Value}

/-- The source can be read and declares these fragments and nothing else. -/
def Reads (source : Except SchemaError Value) (declared : Catalog Value) : Prop :=
  (source >>= fragmentsOf) = .ok declared

theorem merge_eq_ok_iff {fragments : Catalog Value} :
    merge collected fragments = .ok found ↔
      collected.Apart fragments ∧ collected.extend fragments = found := by
  have apart : collected.Apart fragments ↔
      ∀ name ∈ fragments.names, collected.contains name = false := by
    simp only [Catalog.mem_names_iff, ← Catalog.contains_iff]
    exact ⟨Catalog.Apart.symm, Catalog.Apart.symm⟩
  rw [apart]
  unfold merge
  cases taken : fragments.names.find? collected.contains with
  | some name =>
      have isTaken := List.find?_some taken
      refine iff_of_false (by simp) fun both => ?_
      rw [both.1 name (List.mem_of_find?_eq_some taken)] at isTaken
      cases isTaken
  | none =>
      have free : ∀ name ∈ fragments.names, collected.contains name = false := by
        simpa using taken
      simp only [Except.ok.injEq]
      exact (and_iff_right free).symm

theorem foldlM_merge_eq_ok_iff :
    sources.foldlM (fun collected source => do merge collected (← fragmentsOf (← source)))
        collected = .ok found ↔
      ∃ parts, List.Forall₂ Reads sources parts ∧ Catalog.Joins (collected :: parts) found := by
  induction sources generalizing collected with
  | nil => simp [pure_eq_ok, Catalog.joins_singleton_iff]
  | cons source rest inRest =>
      simp only [List.foldlM_cons, bind_eq_ok, merge_eq_ok_iff, inRest,
        List.forall₂_cons_left_iff, Reads]
      constructor
      · rintro ⟨_, ⟨written, read, part, isPart, apart, rfl⟩, parts, each, joins⟩
        exact ⟨part :: parts, ⟨part, parts, ⟨written, read, isPart⟩, each, rfl⟩,
          Catalog.joins_cons_cons_iff.mpr ⟨apart, joins⟩⟩
      · rintro ⟨_, ⟨part, parts, ⟨written, read, isPart⟩, each, rfl⟩, joins⟩
        obtain ⟨apart, joins⟩ := Catalog.joins_cons_cons_iff.mp joins
        exact ⟨_, ⟨written, read, part, isPart, apart, rfl⟩, parts, each, joins⟩

theorem collect_eq_ok_iff :
    collect sources = .ok found ↔
      ∃ parts, List.Forall₂ Reads sources parts ∧ Catalog.Joins (.empty :: parts) found :=
  foldlM_merge_eq_ok_iff

/-- Declarations can be put together in any order of their sources. -/
theorem collect_of_perm (order : sources.Perm others) (collected : collect sources = .ok found) :
    collect others = .ok found := by
  obtain ⟨parts, each, joins⟩ := collect_eq_ok_iff.mp collected
  obtain ⟨rearranged, ofOthers, orderOfParts⟩ := List.perm_comp_forall₂ order.symm each
  exact collect_eq_ok_iff.mpr
    ⟨rearranged, ofOthers, joins.perm (orderOfParts.symm.cons _)⟩

end Source

namespace Registry

variable {registry other grown : Registry} {declared : Catalog Value}

/-- The registry holds what these declarations are built into, and no more. -/
structure Settles (registry : Registry) (declared : Catalog Value) : Prop where
  contains : ∀ name, registry.contains name = declared.contains name
  realizes : ∀ name body, declared.find? name = some body → registry.Realizes name body

theorem settles_empty (config : Config) : (withConfig config).Settles .empty :=
  ⟨fun _ => rfl, nofun⟩

theorem Absorbs.settles (absorbs : registry.Absorbs declared grown) {earlier : Catalog Value}
    (settles : registry.Settles earlier) : grown.Settles (earlier.extend declared) := by
  constructor
  case contains =>
    intro name
    rw [absorbs.contains, Catalog.contains_extend, settles.contains]
  case realizes =>
    intro name body found
    rw [Catalog.find?_extend, Option.or_eq_some_iff] at found
    rcases found with isDeclared | ⟨_, isEarlier⟩
    · exact absorbs.realizes name body isDeclared
    · exact absorbs.toWithin.realizes (settles.realizes name body isEarlier)

theorem Settles.available_iff (settles : registry.Settles declared) {limit : Nat} {name : String}
    {node : Node} :
    (Source.scopeWith .empty limit declared).available registry.fragments name = .ok node ↔
      registry.get? name = some node := by
  rw [Scope.available_eq_ok_iff, Source.contains_scopeWith]
  cases isDeclared : declared.contains name with
  | true => rfl
  | false =>
      have absent := Catalog.find?_eq_none_iff.mpr ((settles.contains name).trans isDeclared)
      simp [Registry.get?, absent, Source.scopeWith, Catalog.find?_empty]

theorem Settles.linked (settles : registry.Settles declared) :
    (Source.scopeWith .empty registry.config.maxDepth declared).Linked registry.fragments := by
  intro name node found
  have isDeclared : declared.contains name = true :=
    (settles.contains name).symm.trans (Catalog.contains_iff.mpr ⟨node, found⟩)
  obtain ⟨body, isBody⟩ := Catalog.contains_iff.mp isDeclared
  obtain ⟨own, same, expanded⟩ := settles.realizes name body isBody
  cases found.symm.trans same
  refine ⟨_, Source.declared_scopeWith_iff.mpr ⟨body, isBody, rfl⟩, ?_⟩
  refine Definition.expand_mono (fun inner target stands => ?_) expanded
  exact settles.available_iff.mpr (target_eq_ok_iff.mp stands)

theorem Settles.filled (settles : registry.Settles declared) :
    (Source.scopeWith .empty registry.config.maxDepth declared).Filled registry.fragments := by
  intro name isDeclared
  rw [Source.contains_scopeWith, ← settles.contains] at isDeclared
  exact Catalog.contains_iff.mp isDeclared

/-- A fragment is its declaration built anew, with no memory of the order in which the
registry was filled. -/
theorem Settles.get?_eq_some_iff (settles : registry.Settles declared) {name : String}
    {node : Node} :
    registry.get? name = some node ↔
      declared.contains name = true ∧
        (Source.scopeWith .empty registry.config.maxDepth declared).rebuilt name = .ok node := by
  have rebuilt {stored : Node} (found : registry.get? name = some stored) :
      (Source.scopeWith .empty registry.config.maxDepth declared).rebuilt name = .ok stored :=
    Scope.rebuilt_of_available settles.linked (settles.available_iff.mpr found)
  rw [← settles.contains, contains_iff_get?]
  constructor
  · exact fun found => ⟨⟨node, found⟩, rebuilt found⟩
  · rintro ⟨⟨stored, found⟩, again⟩
    rw [rebuilt found, Except.ok.injEq] at again
    rw [found, again]

/-- Declarations determine a registry that holds nothing else. -/
theorem Settles.unique (settles : registry.Settles declared) (again : other.Settles declared)
    (config : registry.config = other.config) : registry = other := by
  have fragments : registry.fragments = other.fragments := by
    refine Catalog.ext_find? fun name node => ?_
    change registry.get? name = some node ↔ other.get? name = some node
    rw [settles.get?_eq_some_iff, again.get?_eq_some_iff, config]
  cases registry
  cases other
  cases fragments
  cases config
  rfl

/-- Whatever way a registry was filled, its declarations fill an empty one in one go. -/
theorem Settles.absorb_eq_ok (settles : registry.Settles declared) :
    ∃ names, (withConfig registry.config).absorb declared = .ok (registry, names) := by
  -- The fragments are a complete table for their own declarations, which are thus buildable;
  -- what is then built is settled by the same declarations and can only be this registry.
  have buildable := Scope.buildable_of_filled settles.linked settles.filled
  obtain ⟨_, built, filled⟩ := Scope.buildDeclared_total buildable .empty
  have done : (withConfig registry.config).absorb declared =
      .ok (⟨Catalog.empty.extend built, registry.config⟩, built.names) :=
    absorb_eq_ok_iff.mpr ⟨fun _ _ => rfl, built, filled, rfl, rfl⟩
  rw [Catalog.empty_extend] at done
  have again := (absorbs_of_absorb done).1.settles (settles_empty registry.config)
  rw [Catalog.empty_extend] at again
  rw [again.unique settles rfl] at done
  exact ⟨built.names, done⟩

/-- Registered one after the other, sources leave what their declarations together are built
into. -/
theorem foldlM_registerSource_settles {sources : List (Except SchemaError Value)}
    (settles : registry.Settles declared)
    (done : sources.foldlM (fun grown source => do
      return (← grown.registerSource (← source)).1) registry = .ok grown) :
    grown.config = registry.config ∧ ∃ parts whole, List.Forall₂ Source.Reads sources parts ∧
      Catalog.Joins (declared :: parts) whole ∧ grown.Settles whole := by
  induction sources generalizing registry declared with
  | nil =>
      rw [List.foldlM_nil, pure_eq_ok] at done
      subst done
      exact ⟨rfl, [], declared, .nil, Catalog.joins_singleton_iff.mpr rfl, settles⟩
  | cons source rest inRest =>
      simp only [List.foldlM_cons, bind_eq_ok, pure_eq_ok] at done
      obtain ⟨_, ⟨written, read, ⟨between, names⟩, registered, rfl⟩, remaining⟩ := done
      obtain ⟨part, isPart, absorbed⟩ := bind_eq_ok.mp registered
      have absorbs := (absorbs_of_absorb absorbed).1
      obtain ⟨config, parts, whole, each, joins, settled⟩ :=
        inRest (absorbs.settles settles) remaining
      have apart : part.Apart declared := by
        intro name isDeclared
        rw [← settles.contains]
        exact absorbs.free name isDeclared
      exact ⟨config.trans absorbs.config, part :: parts, whole,
        .cons (bind_eq_ok.mpr ⟨written, read, isPart⟩) each,
        Catalog.joins_cons_cons_iff.mpr ⟨apart.symm, joins⟩, settled⟩

theorem ofSources_eq_ok_iff {config : Config} {sources : List (Except SchemaError Value)} :
    ofSources config sources = .ok registry ↔
      ∃ declared, Source.collect sources = .ok declared ∧
        ∃ names, (withConfig config).absorb declared = .ok (registry, names) := by
  simp only [ofSources, bind_eq_ok, pure_eq_ok, Prod.exists]
  constructor
  · rintro ⟨declared, collected, _, names, absorbed, rfl⟩
    exact ⟨declared, collected, names, absorbed⟩
  · rintro ⟨declared, collected, names, absorbed⟩
    exact ⟨declared, collected, registry, names, absorbed, rfl⟩

theorem ofSources_of_perm {config : Config} {sources others : List (Except SchemaError Value)}
    (order : sources.Perm others) (made : ofSources config sources = .ok registry) :
    ofSources config others = .ok registry := by
  obtain ⟨declared, collected, absorbed⟩ := ofSources_eq_ok_iff.mp made
  exact ofSources_eq_ok_iff.mpr ⟨declared, Source.collect_of_perm order collected, absorbed⟩

theorem registerTexts_eq (registry : Registry) (texts : List String) :
    registry.registerTexts texts = (texts.map Source.ofText).foldlM (fun grown source => do
      return (← grown.registerSource (← source)).1) registry := by
  simp only [registerTexts, registerText, List.foldlM_map, bind_assoc]

/-- Texts registered one after the other leave the registry that they make in one go, in any
order; and in one go the order never matters. -/
theorem ofTexts_of_perm {texts others : List String} (order : texts.Perm others)
    (registry : Registry) :
    (empty.registerTexts texts = .ok registry → ofTexts others = .ok registry) ∧
      (ofTexts texts = .ok registry ↔ ofTexts others = .ok registry) := by
  have orderOfSources := order.map Source.ofText
  refine ⟨fun done => ?_, ofSources_of_perm orderOfSources, ofSources_of_perm orderOfSources.symm⟩
  rw [registerTexts_eq] at done
  obtain ⟨config, parts, whole, each, joins, settles⟩ :=
    foldlM_registerSource_settles (settles_empty .standard) done
  obtain ⟨names, absorbed⟩ := settles.absorb_eq_ok
  rw [config] at absorbed
  exact ofSources_of_perm orderOfSources (ofSources_eq_ok_iff.mpr
    ⟨whole, Source.collect_eq_ok_iff.mpr ⟨parts, each, joins⟩, names, absorbed⟩)

/-- A list of the fragment that the second text declares, which is registered first. -/
theorem ofTexts_of_perm_listed :
    let listed := "schema;listed: {seq: [{include: item}]}"
    let item := "schema;item: {type: int, range: {min: 1}}"
    ∃ registry, empty.registerTexts [item, listed] = .ok registry ∧
      registry.names = ["item", "listed"] ∧ ofTexts [item, listed] = .ok registry ∧
      ofTexts [listed, item] = .ok registry := by
  intro listed item
  have named : ((empty.registerTexts [item, listed]).toOption.map names) =
      some ["item", "listed"] := by
    decide +kernel
  obtain ⟨registry, found, isNamed⟩ := Option.map_eq_some_iff.mp named
  have done := toOption_eq_some_iff.mp found
  exact ⟨registry, done, isNamed, (ofTexts_of_perm (.refl _) registry).1 done,
    (ofTexts_of_perm (.swap listed item []) registry).1 done⟩

end Registry
end DocShape
