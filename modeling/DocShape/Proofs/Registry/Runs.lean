import DocShape.Proofs.Registry.Growth
import DocShape.Schema.Loading

namespace DocShape

/-! Runs of operations on a registry that starts empty.

At every point the registry is closed: whatever a stored tree includes is stored too, as the
same tree.  An operation could break this by replacing a fragment, by storing a tree linked
elsewhere or by leaving part of its work behind when it fails, and none of these happens.
-/

/-- An include of `name` with this target stands anywhere in the tree, also inside the targets
of other includes. -/
inductive Node.Holds : Node → String → Node → Prop where
  | outside {node : Node} {name : String} {target : Node} (includes : node.Includes name target) :
      Holds node name target
  | inside {node outer : Node} {around name : String} {target : Node}
      (includes : node.Includes around outer) (below : Holds outer name target) :
      Holds node name target

namespace Registry

/-- A change of a registry in place: what it has changed before it fails stays changed. -/
abbrev Change := EStateM SchemaError Registry

namespace Change

def ofExcept {α : Type} : Except SchemaError α → Change α
  | .ok found => pure found
  | .error error => throw error

def register (name : String) (node : Node) : Change Unit := do
  if (← get).contains name then throw (.duplicateFragment name)
  modify fun registry => { registry with fragments := registry.fragments.insert name node }

/-- Everything is built before anything is stored. -/
def absorb (declared : Catalog Value) : Change (List String) := do
  let registry ← get
  let scope ← ofExcept (Source.scopeOf registry.fragments registry.config.maxDepth declared)
  let (_, built) ← ofExcept (scope.buildDeclared.run .empty)
  modify fun registry => { registry with fragments := registry.fragments.extend built }
  return built.names

def registerSource (source : Value) : Change (List String) := do
  absorb (← ofExcept (Source.fragmentsOf source))

def registerText (text : String) : Change (List String) := do
  registerSource (← ofExcept (Source.ofText text))

end Change

/-- What can be done to a registry. -/
inductive Operation where
  | register (name : String) (node : Node)
  | registerText (text : String)
  | registerSource (source : Value)
  | link

namespace Operation

/-- Performs an operation, which answers with the names it reports if it reports any. -/
def perform : Operation → Change (Option (List String))
  | .register name node => do
      Change.register name node
      return none
  | .registerText text => do return some (← Change.registerText text)
  | .registerSource source => do return some (← Change.registerSource source)
  | .link => do
      set (← Change.ofExcept (Domain.link (← get)))
      return none

/-- The registry after an operation, also after one that fails. -/
def after (registry : Registry) (operation : Operation) : Registry :=
  match operation.perform.run registry with
  | .ok _ left => left
  | .error _ left => left

/-- The names that an operation declares. -/
def Declares (registry : Registry) (name : String) : Operation → Prop
  | .register stored _ => name = stored
  | .registerText text => ∃ source, Source.ofText text = .ok source ∧ Source.Defines source name
  | .registerSource source => Source.Defines source name
  | .link => name = Domain.responsesName ∧ registry.contains Domain.responsesName = false

/-- The includes of a node that is registered were all obtained from the registry, in one of
the states that it has been in. -/
def Allowed (states : List Registry) : Operation → Prop
  | .register _ node => ∀ inner target, node.Includes inner target →
      ∃ past ∈ states, past.including inner = .ok (.included inner target)
  | _ => True

/-- Operations on sources report the names they declare, in order; others report nothing. -/
def Reports (registry : Registry) (reported : Option (List String)) : Operation → Prop
  | .register _ _ | .link => reported = none
  | operation => ∃ names, reported = some names ∧ names.Pairwise (· < ·) ∧
      ∀ name, name ∈ names ↔ operation.Declares registry name

/-- What a successful operation does: it stores fragments under exactly the names it declares,
which were free. -/
structure Adds (operation : Operation) (registry grown : Registry)
    (reported : Option (List String)) : Prop extends registry.Within grown where
  free : ∀ name, operation.Declares registry name → registry.contains name = false
  contains : ∀ name, grown.contains name = true ↔
    operation.Declares registry name ∨ registry.contains name = true
  reports : operation.Reports registry reported

end Operation

/-- The states of a registry from the empty one on, the latest first. -/
inductive Run (config : Config) : List Registry → Prop where
  | start : Run config [withConfig config]
  | step {registry : Registry} {earlier : List Registry} (run : Run config (registry :: earlier))
      (operation : Operation) (allowed : operation.Allowed (registry :: earlier)) :
      Run config (operation.after registry :: registry :: earlier)

/-- Every include in a stored tree stands for the fragment that is stored under its name. -/
def Closed (registry : Registry) : Prop :=
  ∀ name node, registry.get? name = some node → ∀ inner target, node.Includes inner target →
    registry.get? inner = some target

variable {registry grown : Registry} {declared : Catalog Value} {reported : Option (List String)}
  {operation : Operation}

theorem Closed.holds (closed : registry.Closed) {name inner : String} {node target : Node}
    (found : registry.get? name = some node) (holds : node.Holds inner target) :
    registry.get? inner = some target := by
  induction holds generalizing name with
  | outside includes => exact closed name _ found _ _ includes
  | inside includes _ ofOuter => exact ofOuter (closed name _ found _ _ includes)

theorem closed_empty (config : Config) : (withConfig config).Closed :=
  nofun

theorem including_eq_ok_iff {name : String} {node : Node} :
    registry.including name = .ok node ↔
      ∃ target, registry.get? name = some target ∧ .included name target = node := by
  unfold including
  cases registry.get? name <;> simp

theorem register_eq_ok_iff {name : String} {node : Node} :
    registry.register name node = .ok grown ↔
      registry.contains name = false ∧
        { registry with fragments := registry.fragments.insert name node } = grown := by
  unfold register
  cases registry.contains name <;> simp

theorem get?_insert {name wanted : String} {node : Node} :
    ({ registry with fragments := registry.fragments.insert name node } : Registry).get? wanted =
      if name = wanted then some node else registry.get? wanted :=
  Catalog.find?_insert _ _ _ _

theorem within_insert {name : String} (node : Node) (free : registry.contains name = false) :
    registry.Within { registry with fragments := registry.fragments.insert name node } := by
  refine ⟨rfl, fun other stored found => ?_⟩
  have different : name ≠ other := by
    rintro rfl
    rw [contains_iff_get?.mpr ⟨stored, found⟩] at free
    cases free
  rw [get?_insert, if_neg different, found]

theorem Closed.insert (closed : registry.Closed) {name : String} {node : Node}
    (free : registry.contains name = false)
    (known : ∀ inner target, node.Includes inner target → registry.get? inner = some target) :
    Closed { registry with fragments := registry.fragments.insert name node } := by
  have within := within_insert node free
  intro other stored found inner target includes
  rw [get?_insert] at found
  by_cases same : name = other
  · rw [if_pos same, Option.some.injEq] at found
    subst found
    exact within.keeps inner target (known inner target includes)
  · rw [if_neg same] at found
    exact within.keeps inner target (closed other stored found inner target includes)

theorem Absorbs.closed (absorbs : registry.Absorbs declared grown) (closed : registry.Closed) :
    grown.Closed := by
  intro name node found inner target includes
  have contained := contains_iff_get?.mpr ⟨node, found⟩
  rw [absorbs.contains, Bool.or_eq_true] at contained
  rcases contained with isDeclared | earlier
  · obtain ⟨body, isBody⟩ := Catalog.contains_iff.mp isDeclared
    obtain ⟨own, same, expanded⟩ := absorbs.realizes name body isBody
    cases found.symm.trans same
    exact target_eq_ok_iff.mp (Definition.lookUp_of_includes expanded includes)
  · obtain ⟨own, foundBefore⟩ := contains_iff_get?.mp earlier
    cases found.symm.trans (absorbs.keeps name own foundBefore)
    exact absorbs.keeps inner target (closed name node foundBefore inner target includes)

namespace Change

/-- How a change ends that was computed beforehand: only a success changes the registry. -/
def outcome {α : Type} (registry : Registry) :
    Except SchemaError (Registry × α) → EStateM.Result SchemaError Registry α
  | .ok (grown, found) => .ok found grown
  | .error error => .error error registry

variable {α : Type} {result : Except SchemaError (Registry × α)}

theorem outcome_eq_ok_iff {found : α} :
    outcome registry result = .ok found grown ↔ result = .ok (grown, found) := by
  cases result <;> simp [outcome, Prod.ext_iff, and_comm]

theorem outcome_eq_error_iff {error : SchemaError} :
    outcome registry result = .error error grown ↔ result = .error error ∧ registry = grown := by
  cases result <;> simp [outcome]

theorem run_register (name : String) (node : Node) :
    (register name node).run registry =
      outcome registry ((registry.register name node).map fun grown => (grown, ())) := by
  unfold register Registry.register
  simp only [EStateM.run_bind, EStateM.run_get]
  cases registry.contains name <;> rfl

theorem run_absorb (declared : Catalog Value) :
    (absorb declared).run registry = outcome registry (registry.absorb declared) := by
  unfold absorb Registry.absorb
  simp only [EStateM.run_bind, EStateM.run_get]
  cases Source.scopeOf registry.fragments registry.config.maxDepth declared with
  | error error => rfl
  | ok scope =>
      simp only [bind, Except.bind, ofExcept, EStateM.run_pure]
      cases scope.buildDeclared.run .empty <;> rfl

theorem run_registerSource (source : Value) :
    (registerSource source).run registry = outcome registry (registry.registerSource source) := by
  unfold registerSource Registry.registerSource
  cases Source.fragmentsOf source with
  | error error => rfl
  | ok declared => exact run_absorb declared

theorem run_registerText (text : String) :
    (registerText text).run registry = outcome registry (registry.registerText text) := by
  unfold registerText Registry.registerText
  cases Source.ofText text with
  | error error => rfl
  | ok source => exact run_registerSource source

end Change

namespace Operation

/-- What an operation comes to, computed without changing a registry. -/
def computed (registry : Registry) :
    Operation → Except SchemaError (Registry × Option (List String))
  | .register name node => do return (← registry.register name node, none)
  | .registerText text => do
      let (grown, names) ← registry.registerText text
      return (grown, some names)
  | .registerSource source => do
      let (grown, names) ← registry.registerSource source
      return (grown, some names)
  | .link => do return (← Domain.link registry, none)

/-- No operation changes the registry before it is sure to succeed. -/
theorem run_perform (operation : Operation) (registry : Registry) :
    operation.perform.run registry = Change.outcome registry (operation.computed registry) := by
  cases operation with
  | register name node =>
      simp only [perform, computed, EStateM.run_bind, Change.run_register]
      cases registry.register name node <;> rfl
  | registerText text =>
      simp only [perform, computed, EStateM.run_bind, Change.run_registerText]
      cases registry.registerText text <;> rfl
  | registerSource source =>
      simp only [perform, computed, EStateM.run_bind, Change.run_registerSource]
      cases registry.registerSource source <;> rfl
  | link =>
      simp only [perform, computed, EStateM.run_bind, EStateM.run_get]
      cases Domain.link registry <;> rfl

/-- The ways in which an operation succeeds: it stores a node, it builds declared fragments, or
it finds the fragment for responses in place. -/
inductive Succeeds (registry : Registry) (operation : Operation) (grown : Registry)
    (reported : Option (List String)) : Prop where
  | stored {name : String} {node : Node} (isRegister : operation = .register name node)
      (free : registry.contains name = false)
      (inserted : { registry with fragments := registry.fragments.insert name node } = grown)
      (silent : reported = none)
  | built {declared : Catalog Value} (absorbs : registry.Absorbs declared grown)
      (declares : ∀ name, declared.contains name = true ↔ operation.Declares registry name)
      (reports : operation.Reports registry reported)
  | present (isLink : operation = .link)
      (contained : registry.contains Domain.responsesName = true) (same : registry = grown)
      (silent : reported = none)

theorem succeeds_of_perform (done : operation.perform.run registry = .ok reported grown) :
    operation.Succeeds registry grown reported := by
  rw [run_perform, Change.outcome_eq_ok_iff] at done
  cases operation with
  | register name node =>
      simp only [computed, bind_eq_ok, pure_eq_ok, Prod.mk.injEq, register_eq_ok_iff] at done
      obtain ⟨_, ⟨free, rfl⟩, rfl, rfl⟩ := done
      exact .stored rfl free rfl rfl
  | registerText text =>
      simp only [computed, bind_eq_ok, pure_eq_ok, Prod.mk.injEq, Prod.exists] at done
      obtain ⟨_, names, registeredText, rfl, rfl⟩ := done
      obtain ⟨source, read, registered⟩ := bind_eq_ok.mp registeredText
      obtain ⟨declared, absorbs, defines, sorted, reports⟩ := absorbs_of_registerSource registered
      have declares (name : String) :
          Declares registry name (.registerText text) ↔ Source.Defines source name := by
        simp only [Declares, read, Except.ok.injEq, exists_eq_left']
      exact .built absorbs (fun name => (defines name).trans (declares name).symm)
        ⟨names, rfl, sorted, fun name => (reports name).trans (declares name).symm⟩
  | registerSource source =>
      simp only [computed, bind_eq_ok, pure_eq_ok, Prod.mk.injEq, Prod.exists] at done
      obtain ⟨_, names, registered, rfl, rfl⟩ := done
      obtain ⟨declared, absorbs, defines, sorted, reports⟩ := absorbs_of_registerSource registered
      exact .built absorbs defines ⟨names, rfl, sorted, reports⟩
  | link =>
      simp only [computed, bind_eq_ok, pure_eq_ok, Prod.mk.injEq, Domain.link_eq_ok_iff] at done
      obtain ⟨_, ⟨contained, rfl⟩ | ⟨absent, names, registered⟩, rfl, rfl⟩ := done
      · exact .present rfl contained rfl rfl
      · obtain ⟨declared, absorbs, defines, _⟩ := absorbs_of_registerSource registered
        refine .built absorbs (fun name => ?_) rfl
        rw [defines, Domain.defines_responses_iff, Declares, and_iff_left absent]

theorem adds_of_succeeds (succeeds : operation.Succeeds registry grown reported) :
    operation.Adds registry grown reported := by
  cases succeeds with
  | @stored name node isRegister free inserted silent =>
      subst isRegister inserted silent
      refine ⟨within_insert node free, ?_, fun other => ?_, rfl⟩
      · rintro _ rfl
        exact free
      · rw [Registry.contains, Catalog.contains_insert, Bool.or_eq_true, beq_iff_eq, eq_comm]
        rfl
  | built absorbs declares reports =>
      refine ⟨absorbs.toWithin, fun name isDeclared => ?_, fun name => ?_, reports⟩
      · exact absorbs.free name ((declares name).mpr isDeclared)
      · rw [absorbs.contains, Bool.or_eq_true, declares]
  | present isLink contained same silent =>
      subst isLink same silent
      have nothing (name : String) : ¬ Declares registry name .link := by
        rintro ⟨_, absent⟩
        rw [contained] at absent
        cases absent
      refine ⟨.refl registry, fun name declares => absurd declares (nothing name), fun name => ?_,
        rfl⟩
      rw [or_iff_right (nothing name)]

theorem closed_of_succeeds (succeeds : operation.Succeeds registry grown reported)
    (closed : registry.Closed)
    (known : ∀ name node, operation = .register name node →
      ∀ inner target, node.Includes inner target → registry.get? inner = some target) :
    grown.Closed := by
  cases succeeds with
  | @stored name node isRegister free inserted =>
      subst inserted
      exact closed.insert free (known name node isRegister)
  | built absorbs => exact absorbs.closed closed
  | present _ _ same => exact same ▸ closed

end Operation

/-- The registry is closed, and what it held in an earlier state it still holds. -/
structure Consistent (registry : Registry) (earlier : List Registry) : Prop where
  closed : registry.Closed
  keeps : ∀ past ∈ earlier, past.Within registry

theorem Consistent.after {earlier : List Registry} (consistent : registry.Consistent earlier)
    (allowed : operation.Allowed (registry :: earlier)) :
    (operation.after registry).Consistent (registry :: earlier) := by
  have reaches : ∀ past ∈ registry :: earlier, past.Within registry :=
    List.forall_mem_cons.mpr ⟨.refl registry, consistent.keeps⟩
  unfold Operation.after
  cases done : operation.perform.run registry with
  | error error left =>
      rw [Operation.run_perform, Change.outcome_eq_error_iff] at done
      exact done.2 ▸ ⟨consistent.closed, reaches⟩
  | ok reported grown =>
      have succeeds := Operation.succeeds_of_perform done
      have adds := Operation.adds_of_succeeds succeeds
      refine ⟨Operation.closed_of_succeeds succeeds consistent.closed ?_,
        fun past member => (reaches past member).trans adds.toWithin⟩
      rintro name node rfl inner target includes
      obtain ⟨past, member, obtained⟩ := allowed inner target includes
      obtain ⟨stored, found, same⟩ := including_eq_ok_iff.mp obtained
      cases same
      exact (reaches past member).keeps inner target found

theorem Run.consistent {config : Config} {states : List Registry} (run : Run config states) :
    ∃ registry earlier, states = registry :: earlier ∧ registry.Consistent earlier := by
  induction run with
  | start => exact ⟨_, _, rfl, closed_empty config, nofun⟩
  | step run operation allowed ofRun =>
      obtain ⟨_, _, same, consistent⟩ := ofRun
      cases same
      exact ⟨_, _, rfl, consistent.after allowed⟩

/-- At every point of a run all includes stand for stored fragments, and an operation either
changes nothing or adds exactly what it declares. -/
theorem run_consistent {config : Config} {registry : Registry} {earlier : List Registry}
    (run : Run config (registry :: earlier)) :
    (∀ name node, registry.get? name = some node → ∀ inner target, node.Holds inner target →
      registry.get? inner = some target) ∧
    ∀ operation : Operation,
      (∀ error left, operation.perform.run registry = .error error left → left = registry) ∧
      ∀ reported grown, operation.perform.run registry = .ok reported grown →
        operation.Adds registry grown reported := by
  obtain ⟨_, _, same, consistent⟩ := run.consistent
  cases same
  refine ⟨fun name node found inner target holds => consistent.closed.holds found holds,
    fun operation => ⟨fun error left failed => ?_, fun reported grown done => ?_⟩⟩
  · rw [Operation.run_perform, Change.outcome_eq_error_iff] at failed
    exact failed.2.symm
  · exact Operation.adds_of_succeeds (Operation.succeeds_of_perform done)

/-- A node with an include obtained from the registry is stored beside what it includes. -/
theorem run_consistent_listed :
    ∃ registry earlier target, Run .standard (registry :: earlier) ∧
      registry.get? "listed" = some (.seq [.included "item" target] .any) ∧
      registry.get? "item" = some target := by
  obtain ⟨first, isFirst⟩ : ∃ first, Operation.after (withConfig .standard)
      (.registerText "schema;item: {type: int}") = first := ⟨_, rfl⟩
  have run : Run .standard [first, withConfig .standard] := isFirst ▸ .step .start _ trivial
  have included : (first.including "item").isOk = true := by
    rw [← isFirst]
    decide +kernel
  have free : first.contains "listed" = false := by
    rw [← isFirst]
    decide +kernel
  obtain ⟨_, obtained⟩ := exists_of_isOk included
  obtain ⟨target, _, rfl⟩ := including_eq_ok_iff.mp obtained
  have allowed : Operation.Allowed [first, withConfig .standard]
      (.register "listed" (.seq [.included "item" target] .any)) := by
    intro inner other includes
    cases includes with
    | variant member below =>
        cases List.mem_singleton.mp member
        cases below
        exact ⟨first, List.mem_cons_self, obtained⟩
  have registered : first.register "listed" (.seq [.included "item" target] .any) = .ok _ :=
    register_eq_ok_iff.mpr ⟨free, rfl⟩
  have stored : (Operation.after first
      (.register "listed" (.seq [.included "item" target] .any))).get? "listed" =
        some (.seq [.included "item" target] .any) := by
    simp only [Operation.after, Operation.run_perform, Operation.computed, registered]
    exact get?_insert.trans (if_pos rfl)
  have both := run.step _ allowed
  exact ⟨_, _, target, both, stored, (run_consistent both).1 "listed" _ stored "item" target
    (.outside (.variant (List.mem_singleton.mpr rfl) (.here "item" target)))⟩

end Registry
end DocShape
