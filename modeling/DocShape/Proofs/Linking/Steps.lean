import DocShape.Proofs.Grammar.Nesting
import DocShape.Proofs.Linking.Rebuilding
import DocShape.Schema.Source
import Mathlib.Algebra.GroupWithZero.Nat
import Mathlib.Algebra.Order.BigOperators.Group.List
import Mathlib.Algebra.Order.Group.Nat
import Mathlib.Logic.Function.Iterate

namespace DocShape

/-! Building nodes step by step.

Here a fragment is read only when it is asked for, and nothing bounds how often that happens
or how deep a definition may lie.  A build ends all the same: a fragment that was opened is not
opened again, be it still open or in the table, and everything else works off a definition.
Where a fault is found nothing is opened any more, and what waits is given up.
-/

/-- What a build takes its fragments from.  Without a limit definitions may lie at any
depth. -/
structure Sources where
  registered : Catalog Node
  declared : Catalog Value
  limit : Option Nat

/-- A map with its first fields built. -/
structure PartialMap where
  path : String
  depth : Nat
  allowEmpty : Bool
  fields : List (Field Node)
  rest : Entries

/-- A sequence with its first shapes built. -/
structure PartialSeq where
  path : String
  depth : Nat
  matching : Matching
  variants : List Node
  rest : List Value

/-- What is to be done next. -/
inductive Job where
  | resolve (name : String)
  | node (path : String) (depth : Nat) (body : Value)
  | fields (map : PartialMap)
  | variants (seq : PartialSeq)
  | finish (outcome : Except SchemaError Node)

/-- What goes on with the outcome of a job. -/
inductive Caller where
  | fragment (name : String)
  | included (name : String)
  /-- The field has this path, this name and this `required` keyword. -/
  | field (map : PartialMap) (path name : String) (required : Option Bool)
  | variant (seq : PartialSeq)

/-- A build under way.  The callers stand with the innermost first, the open fragments with
the outermost first. -/
structure Assembly where
  job : Job
  waiting : List Caller
  opened : List String
  built : Catalog Node

namespace Assembly

def turn (assembly : Assembly) (job : Job) : Assembly := { assembly with job }

def fail (assembly : Assembly) (error : SchemaError) : Assembly :=
  assembly.turn (.finish (.error error))

/-- Leaves the job to another one and waits for its outcome. -/
def call (assembly : Assembly) (caller : Caller) (job : Job) : Assembly :=
  { assembly with job, waiting := caller :: assembly.waiting }

def openFragment (assembly : Assembly) (name : String) (body : Value) : Assembly :=
  { assembly.call (.fragment name) (.node (Source.fragmentPath name) 0 body) with
    opened := assembly.opened ++ [name] }

def stepFields (assembly : Assembly) (map : PartialMap) : Assembly :=
  match map.rest with
  | [] => assembly.turn (.finish (.ok (.map map.fields map.allowEmpty)))
  | (key, child) :: rest =>
      match key.text? with
      | none => assembly.fail (.malformed map.path .fieldNameNotString)
      | some name =>
          let path := map.path ++ "." ++ name
          match Definition.requiredOf path child with
          | .error error => assembly.fail error
          | .ok required =>
              assembly.call (.field { map with rest } path name required)
                (.node path (map.depth + 1) child)

def stepVariants (assembly : Assembly) (seq : PartialSeq) : Assembly :=
  match seq.rest with
  | [] => assembly.turn (.finish (.ok (.seq seq.variants seq.matching)))
  | variant :: rest =>
      let path := seq.path ++ "[" ++ toString seq.variants.length ++ "]"
      assembly.call (.variant { seq with rest }) (.node path (seq.depth + 1) variant)

/-- Gives an outcome to a caller; a fragment is closed whatever the outcome. -/
def resume (assembly : Assembly) (outcome : Except SchemaError Node) : Caller → Assembly
  | .fragment name =>
      let closed := { assembly with opened := assembly.opened.dropLast }
      match outcome with
      | .ok node => { closed with built := assembly.built.insert name node }
      | .error _ => closed
  | .included name => assembly.turn (.finish (outcome.map (.included name)))
  | .field map path name required =>
      match outcome with
      | .ok node =>
          match Definition.labelOf path name required with
          | .ok (key, demanded) =>
              assembly.turn (.fields { map with fields := map.fields ++ [⟨key, demanded, node⟩] })
          | .error error => assembly.fail error
      | .error _ => assembly
  | .variant seq =>
      match outcome with
      | .ok node => assembly.turn (.variants { seq with variants := seq.variants ++ [node] })
      | .error _ => assembly

def stepFinish (assembly : Assembly) (outcome : Except SchemaError Node) : Assembly :=
  match assembly.waiting with
  | [] => assembly
  | caller :: waiting => { assembly with waiting }.resume outcome caller

end Assembly

namespace Sources

def stepResolve (sources : Sources) (assembly : Assembly) (name : String) : Assembly :=
  match assembly.built.find? name with
  | some node => assembly.turn (.finish (.ok node))
  | none =>
      if assembly.opened.contains name then
        assembly.fail (.includeCycle (assembly.opened ++ [name]))
      else
        match sources.declared.find? name with
        | some body => assembly.openFragment name body
        | none =>
            match sources.registered.find? name with
            | some node => assembly.turn (.finish (.ok node))
            | none => assembly.fail (.unresolvedInclude name)

def stepNode (sources : Sources) (assembly : Assembly) (path : String) (depth : Nat)
    (body : Value) : Assembly :=
  match sources.limit.filter (· < depth), body with
  | some max, _ => assembly.fail (.tooDeep path max)
  | none, .map entries =>
      match Heading.read path entries with
      | .error error => assembly.fail error
      | .ok (.included name) => assembly.call (.included name) (.resolve name)
      | .ok (.map keyword allowEmpty) =>
          assembly.turn (.fields ⟨path, depth, allowEmpty, [], Entries.table entries keyword⟩)
      | .ok (.seq keyword matching) =>
          assembly.turn (.variants ⟨path, depth, matching, [], Entries.items entries keyword⟩)
      | .ok (.scalar leaf) => assembly.turn (.finish (.ok (.scalar leaf)))
  | none, _ => assembly.fail (.malformed path .nodeNotMap)

/-- One step of a build; where nothing waits for an outcome it stays as it is. -/
def step (sources : Sources) (assembly : Assembly) : Assembly :=
  match assembly.job with
  | .resolve name => sources.stepResolve assembly name
  | .node path depth body => sources.stepNode assembly path depth body
  | .fields map => assembly.stepFields map
  | .variants seq => assembly.stepVariants seq
  | .finish outcome => assembly.stepFinish outcome

def run (sources : Sources) (steps : Nat) (assembly : Assembly) : Assembly :=
  sources.step^[steps] assembly

end Sources

theorem Sources.run_add (sources : Sources) (later earlier : Nat) (assembly : Assembly) :
    sources.run (later + earlier) assembly = sources.run later (sources.run earlier assembly) :=
  Function.iterate_add_apply sources.step later earlier assembly

namespace Value

mutual

/-- How many values stand in a value, keys included. -/
def parts : Value → Nat
  | .seq items => partsOfItems items
  | .map entries => partsOfEntries entries
  | .tagged _ inner => inner.parts + 1
  | _ => 0

def partsOfItems : List Value → Nat
  | [] => 0
  | item :: rest => item.parts + 1 + partsOfItems rest

def partsOfEntries : Entries → Nat
  | [] => 0
  | (key, stored) :: rest => key.parts + 1 + (stored.parts + 1) + partsOfEntries rest

end

theorem parts_le_of_mem {entries : Entries} {key stored : Value}
    (member : (key, stored) ∈ entries) : stored.parts ≤ partsOfEntries entries := by
  induction entries with
  | nil => cases member
  | cons entry rest inRest =>
      rw [partsOfEntries]
      rcases List.mem_cons.mp member with rfl | later
      · simp only
        omega
      · have below := inRest later
        omega

variable {entries : Entries} {keyword : String}

theorem parts_get?_le {stored : Value} (found : entries.get? keyword = some stored) :
    stored.parts ≤ partsOfEntries entries := by
  obtain ⟨key, member, _⟩ := (Entries.get?_eq_some_iff.mp found).mem
  exact parts_le_of_mem member

theorem partsOfEntries_table_le :
    partsOfEntries (Entries.table entries keyword) ≤ partsOfEntries entries := by
  unfold Entries.table
  split
  · rename_i fields found
    exact parts_get?_le found
  · exact Nat.zero_le _

theorem partsOfItems_items_le :
    partsOfItems (Entries.items entries keyword) ≤ partsOfEntries entries := by
  unfold Entries.items
  split
  · rename_i variants found
    exact parts_get?_le found
  · exact Nat.zero_le _

end Value

/-- A bound on the steps that a definition takes, apart from those for fragments. -/
def Value.effort (body : Value) : Nat := 5 * body.parts + 4

/-- The same for a job. -/
def Job.effort : Job → Nat
  | .resolve _ => 2
  | .node _ _ body => body.effort
  | .fields map => 5 * Value.partsOfEntries map.rest + 2
  | .variants seq => 5 * Value.partsOfItems seq.rest + 2
  | .finish _ => 1

def Caller.effort : Caller → Nat
  | .fragment _ | .included _ => 1
  | .field map _ _ _ => 5 * Value.partsOfEntries map.rest + 2
  | .variant seq => 5 * Value.partsOfItems seq.rest + 2

/-- The fault that ends a build. -/
def Job.fault? : Job → Option SchemaError
  | .finish (.error error) => some error
  | _ => none

def Job.failed (job : Job) : Bool := job.fault?.isSome

def Caller.fragment? : Caller → Option String
  | .fragment name => some name
  | _ => none

/-- What a step can do to a build: to open a fragment or to close one, or to go on with less
to do.  After a fault there is only giving up. -/
inductive Change (sources : Sources) (assembly : Assembly) : Assembly → Prop where
  | turn {job : Job} (less : job.effort < assembly.job.effort)
      (sound : assembly.job.failed = false) : Change sources assembly (assembly.turn job)
  | call {caller : Caller} {job : Job} (plain : caller.fragment? = none)
      (less : job.effort + caller.effort < assembly.job.effort)
      (sound : assembly.job.failed = false) :
      Change sources assembly (assembly.call caller job)
  | resume {caller : Caller} {job : Job} {waiting : List Caller}
      (calls : assembly.waiting = caller :: waiting) (plain : caller.fragment? = none)
      (less : job.effort < assembly.job.effort + caller.effort)
      (failing : assembly.job.failed = true → job.failed = true) :
      Change sources assembly { assembly with job, waiting }
  | enter {name : String} {body : Value} (asked : assembly.job = .resolve name)
      (unbuilt : assembly.built.contains name = false) (unopened : name ∉ assembly.opened)
      (declared : sources.declared.find? name = some body) :
      Change sources assembly (assembly.openFragment name body)
  | leave {name : String} {node : Node} {waiting : List Caller}
      (finished : assembly.job = .finish (.ok node))
      (calls : assembly.waiting = .fragment name :: waiting) :
      Change sources assembly { assembly with
        waiting, opened := assembly.opened.dropLast, built := assembly.built.insert name node }
  | giveUp {name : String} {error : SchemaError} {waiting : List Caller}
      (failed : assembly.job = .finish (.error error))
      (calls : assembly.waiting = .fragment name :: waiting) :
      Change sources assembly { assembly with waiting, opened := assembly.opened.dropLast }

/-- Nothing waits for the outcome. -/
def Assembly.Done (assembly : Assembly) (outcome : Except SchemaError Node) : Prop :=
  assembly.job = .finish outcome ∧ assembly.waiting = []

section Changes

variable {sources : Sources} {assembly : Assembly}

/-- A job that is not finished may end at once. -/
theorem turn_finish_changes (unfinished : ∀ outcome, assembly.job ≠ .finish outcome)
    (outcome : Except SchemaError Node) :
    Change sources assembly (assembly.turn (.finish outcome)) := by
  cases asked : assembly.job with
  | finish other => exact absurd asked (unfinished other)
  | resolve => exact .turn (by rw [asked]; exact Nat.one_lt_two) (by rw [asked]; rfl)
  | node | fields | variants =>
      refine .turn ?_ (by rw [asked]; rfl)
      simp only [asked, Job.effort, Value.effort]
      omega

theorem stepResolve_changes {name : String} (asked : assembly.job = .resolve name) :
    Change sources assembly (sources.stepResolve assembly name) := by
  have finishes (outcome : Except SchemaError Node) :
      Change sources assembly (assembly.turn (.finish outcome)) :=
    turn_finish_changes (by simp [asked]) outcome
  unfold Sources.stepResolve
  split
  · exact finishes _
  · rename_i unbuilt
    split
    · exact finishes _
    · rename_i unopened
      split
      · rename_i body declared
        exact .enter asked (Catalog.find?_eq_none_iff.mp unbuilt) (by simpa using unopened) declared
      · split
        · exact finishes _
        · exact finishes _

theorem stepNode_changes {path : String} {depth : Nat} {body : Value}
    (asked : assembly.job = .node path depth body) :
    Change sources assembly (sources.stepNode assembly path depth body) := by
  have finishes (outcome : Except SchemaError Node) :
      Change sources assembly (assembly.turn (.finish outcome)) :=
    turn_finish_changes (by simp [asked]) outcome
  have sound : assembly.job.failed = false := by rw [asked]; rfl
  have effort : assembly.job.effort = 5 * body.parts + 4 := by rw [asked]; rfl
  unfold Sources.stepNode
  split
  · exact finishes _
  · rename_i entries _
    rw [Value.parts] at effort
    split
    · exact finishes _
    · refine .call rfl ?_ sound
      rw [effort]
      simp only [Job.effort, Caller.effort]
      omega
    · rename_i keyword _ _
      have inside : Value.partsOfEntries (Entries.table entries keyword) ≤ _ :=
        Value.partsOfEntries_table_le
      refine .turn ?_ sound
      rw [effort]
      simp only [Job.effort]
      omega
    · rename_i keyword _ _
      have inside : Value.partsOfItems (Entries.items entries keyword) ≤ _ :=
        Value.partsOfItems_items_le
      refine .turn ?_ sound
      rw [effort]
      simp only [Job.effort]
      omega
    · exact finishes _
  · exact finishes _

theorem stepFields_changes {map : PartialMap} (asked : assembly.job = .fields map) :
    Change sources assembly (assembly.stepFields map) := by
  have finishes (outcome : Except SchemaError Node) :
      Change sources assembly (assembly.turn (.finish outcome)) :=
    turn_finish_changes (by simp [asked]) outcome
  unfold Assembly.stepFields
  split
  · exact finishes _
  · rename_i key child rest remaining
    split
    · exact finishes _
    · simp only
      split
      · exact finishes _
      · refine .call rfl ?_ (by rw [asked]; rfl)
        simp only [asked, Job.effort, remaining, Value.partsOfEntries, Caller.effort, Value.effort]
        omega

theorem stepVariants_changes {seq : PartialSeq} (asked : assembly.job = .variants seq) :
    Change sources assembly (assembly.stepVariants seq) := by
  unfold Assembly.stepVariants
  split
  · exact turn_finish_changes (by simp [asked]) _
  · rename_i variant rest remaining
    refine .call rfl ?_ (by rw [asked]; rfl)
    simp only [asked, Job.effort, remaining, Value.partsOfItems, Caller.effort, Value.effort]
    omega

theorem stepFinish_changes {outcome : Except SchemaError Node} {caller : Caller}
    {waiting : List Caller} (asked : assembly.job = .finish outcome)
    (calls : assembly.waiting = caller :: waiting) :
    Change sources assembly (assembly.stepFinish outcome) := by
  have effort : assembly.job.effort = 1 := by rw [asked]; rfl
  have goesOn (plain : caller.fragment? = none) {job : Job}
      (less : job.effort < 1 + caller.effort)
      (failing : assembly.job.failed = true → job.failed = true) :
      Change sources assembly { assembly with job, waiting } :=
    .resume calls plain (by rw [effort]; exact less) failing
  have handsOn (plain : caller.fragment? = none) :
      Change sources assembly { assembly with waiting } := by
    refine goesOn plain ?_ id
    cases caller <;> simp only [effort, Caller.effort] <;> omega
  rw [Assembly.stepFinish, calls]
  cases caller with
  | fragment name =>
      cases outcome with
      | ok node => exact .leave asked calls
      | error error => exact .giveUp asked calls
  | included name =>
      refine goesOn rfl (Nat.lt_add_one 1) ?_
      rw [asked]
      cases outcome <;> exact id
  | field map path name required =>
      cases outcome with
      | error error => exact handsOn rfl
      | ok node =>
          have sound : assembly.job.failed = false := by rw [asked]; rfl
          simp only [Assembly.resume]
          split
          · refine goesOn rfl ?_ (by simp [sound])
            simp only [Job.effort, Caller.effort]
            omega
          · refine goesOn rfl ?_ (by simp [sound])
            simp only [Job.effort, Caller.effort]
            omega
  | variant seq =>
      cases outcome with
      | error error => exact handsOn rfl
      | ok node =>
          have sound : assembly.job.failed = false := by rw [asked]; rfl
          refine goesOn rfl ?_ (by simp [sound])
          simp only [Job.effort, Caller.effort]
          omega

/-- Unless a build is done, a step brings a change. -/
theorem step_changes (busy : ∀ outcome, ¬ assembly.Done outcome) :
    Change sources assembly (sources.step assembly) := by
  unfold Sources.step
  cases asked : assembly.job with
  | resolve name => exact stepResolve_changes asked
  | node path depth body => exact stepNode_changes asked
  | fields map => exact stepFields_changes asked
  | variants seq => exact stepVariants_changes asked
  | finish outcome =>
      cases calls : assembly.waiting with
      | nil => exact absurd ⟨asked, calls⟩ (busy outcome)
      | cons caller waiting => exact stepFinish_changes asked calls

theorem step_of_done {outcome : Except SchemaError Node} (done : assembly.Done outcome) :
    sources.step assembly = assembly := by
  rw [Sources.step, done.1]
  simp only [Assembly.stepFinish, done.2]

end Changes

/-- The fragments that wait for their nodes, the outermost first. -/
def underway (waiting : List Caller) : List String :=
  (waiting.filterMap Caller.fragment?).reverse

/-- The open fragments are those of the callers, inside those that were open before.  They
are distinct declared ones, and none is in the table. -/
structure Orderly (sources : Sources) (outer : List String) (assembly : Assembly) : Prop where
  stacked : assembly.opened = outer ++ underway assembly.waiting
  distinct : assembly.opened.Nodup
  declared : ∀ name ∈ assembly.opened, sources.declared.contains name = true
  unbuilt : ∀ name ∈ assembly.opened, assembly.built.contains name = false

namespace Orderly

variable {sources : Sources} {outer : List String} {assembly after : Assembly}

/-- The innermost open fragment can be closed. -/
theorem closed (orderly : Orderly sources outer assembly) {name : String}
    {waiting : List Caller} (calls : assembly.waiting = .fragment name :: waiting) :
    assembly.opened = assembly.opened.dropLast ++ [name] ∧
      Orderly sources outer { assembly with waiting, opened := assembly.opened.dropLast } := by
  have split : assembly.opened = outer ++ underway waiting ++ [name] := by
    rw [orderly.stacked, calls]
    simp [underway, Caller.fragment?]
  have others : assembly.opened.dropLast = outer ++ underway waiting := by
    rw [split, List.dropLast_concat]
  have within := List.dropLast_subset assembly.opened
  refine ⟨?_, others, orderly.distinct.sublist (List.dropLast_sublist _),
    fun name member => orderly.declared name (within member),
    fun name member => orderly.unbuilt name (within member)⟩
  rw [others, ← split]

theorem change (orderly : Orderly sources outer assembly)
    (change : Change sources assembly after) : Orderly sources outer after := by
  obtain ⟨stacked, distinct, declared, unbuilt⟩ := id orderly
  cases change with
  | turn => exact ⟨stacked, distinct, declared, unbuilt⟩
  | call plain =>
      refine ⟨?_, distinct, declared, unbuilt⟩
      simpa [underway, Assembly.call, plain] using stacked
  | resume calls plain =>
      refine ⟨?_, distinct, declared, unbuilt⟩
      simpa [underway, calls, plain] using stacked
  | @enter name body _ fresh unopened found =>
      have isDeclared := Catalog.contains_iff.mpr ⟨body, found⟩
      constructor
      case stacked =>
        simp [Assembly.openFragment, Assembly.call, underway, Caller.fragment?, stacked]
      case distinct =>
        exact (List.perm_append_singleton name _).nodup_iff.mpr
          (List.nodup_cons.mpr ⟨unopened, distinct⟩)
      case declared =>
        exact List.forall_mem_append.mpr ⟨declared, List.forall_mem_singleton.mpr isDeclared⟩
      case unbuilt =>
        exact List.forall_mem_append.mpr ⟨unbuilt, List.forall_mem_singleton.mpr fresh⟩
  | @leave name node _ _ calls =>
      obtain ⟨split, closed⟩ := orderly.closed calls
      refine ⟨closed.stacked, closed.distinct, closed.declared, fun other member => ?_⟩
      have different : name ≠ other := by
        rintro rfl
        rw [split] at distinct
        exact List.disjoint_of_nodup_append distinct member List.mem_cons_self
      rw [Catalog.contains_insert, closed.unbuilt other member]
      simpa using different
  | giveUp _ calls => exact (orderly.closed calls).2

theorem step (orderly : Orderly sources outer assembly) :
    Orderly sources outer (sources.step assembly) := by
  by_cases done : ∃ outcome, assembly.Done outcome
  · obtain ⟨outcome, isDone⟩ := done
    rwa [step_of_done isDone]
  · exact orderly.change (step_changes (not_exists.mp done))

theorem run (orderly : Orderly sources outer assembly) (steps : Nat) :
    Orderly sources outer (sources.run steps assembly) := by
  induction steps with
  | zero => exact orderly
  | succ steps inSteps =>
      rw [Sources.run, Function.iterate_succ_apply']
      exact inSteps.step

/-- No more fragments are open than are declared. -/
theorem length_opened_le (orderly : Orderly sources outer assembly) :
    assembly.opened.length ≤ sources.declared.size := by
  rw [← Catalog.length_names]
  refine orderly.distinct.length_le_of_subset fun name member => ?_
  exact Catalog.mem_names_iff.mpr (Catalog.contains_iff.mp (orderly.declared name member))

end Orderly

namespace Sources

variable {sources : Sources} {outer : List String} {assembly after : Assembly}

/-- The declared fragments that are neither open nor built. -/
def untouched (sources : Sources) (opened : List String) (built : Catalog Node) :
    List (String × Value) :=
  sources.declared.entries.filter fun entry =>
    !opened.contains entry.1 && !built.contains entry.1

def reserve (sources : Sources) (opened : List String) (built : Catalog Node) : Nat :=
  ((sources.untouched opened built).map fun entry => entry.2.effort).sum

/-- What may still be opened; after a fault this is nothing. -/
def prospect (sources : Sources) (job : Job) (opened : List String)
    (built : Catalog Node) : Nat :=
  if job.failed then 0 else sources.reserve opened built

/-- A bound on the steps to the end of a build. -/
def effort (sources : Sources) (assembly : Assembly) : Nat :=
  assembly.job.effort + (assembly.waiting.map Caller.effort).sum +
    sources.prospect assembly.job assembly.opened assembly.built

theorem prospect_le {opened : List String} {built : Catalog Node} {job next : Job}
    (failing : job.failed = true → next.failed = true) :
    sources.prospect next opened built ≤ sources.prospect job opened built := by
  unfold prospect
  split
  · exact Nat.zero_le _
  · rename_i sound
    rw [if_neg (mt failing sound)]

theorem reserve_insert {opened : List String} {built : Catalog Node} {name : String} {node : Node} :
    sources.reserve opened (built.insert name node) = sources.reserve (opened ++ [name]) built := by
  unfold reserve untouched
  congr 2
  refine List.filter_congr fun entry _ => ?_
  rw [Catalog.contains_insert, BEq.comm]
  simp only [List.contains_append, List.contains_cons, List.contains_nil, Bool.or_false,
    Bool.not_or, Bool.and_assoc]

theorem reserve_open {opened : List String} {built : Catalog Node} {name : String} {body : Value}
    (declared : sources.declared.find? name = some body) (unopened : name ∉ opened)
    (unbuilt : built.contains name = false) :
    body.effort + sources.reserve (opened ++ [name]) built ≤ sources.reserve opened built := by
  have taken : sources.untouched (opened ++ [name]) built =
      (sources.untouched opened built).filter fun entry => entry.1 != name := by
    unfold untouched
    rw [List.filter_filter]
    refine List.filter_congr fun entry _ => ?_
    rw [Bool.eq_iff_iff]
    simp [and_assoc, and_comm]
  have member : (name, body) ∈ sources.untouched opened built := by
    simpa [untouched, unopened, unbuilt] using Catalog.find?_eq_some_iff.mp declared
  obtain ⟨front, rest, split⟩ := List.append_of_mem member
  have others : (((front ++ rest).filter fun entry => entry.1 != name).map fun entry =>
      entry.2.effort).sum ≤ ((front ++ rest).map fun entry => entry.2.effort).sum :=
    (List.filter_sublist.map _).sum_le_sum fun _ _ => Nat.zero_le _
  unfold reserve
  rw [taken, split]
  simp at others ⊢
  omega

theorem effort_lt_of_change (orderly : Orderly sources outer assembly)
    (change : Change sources assembly after) : sources.effort after < sources.effort assembly := by
  have spends (job : Job) (failing : assembly.job.failed = true → job.failed = true) :
      sources.prospect job assembly.opened assembly.built ≤
        sources.prospect assembly.job assembly.opened assembly.built := prospect_le failing
  unfold effort
  cases change with
  | @turn job less sound =>
      have spent := spends job (by simp [sound])
      simp only [Assembly.turn]
      omega
  | @call _ job _ less sound =>
      have spent := spends job (by simp [sound])
      simp only [Assembly.call, List.map_cons, List.sum_cons]
      omega
  | @resume _ job _ calls _ less failing =>
      have spent := spends job failing
      simp only [calls, List.map_cons, List.sum_cons]
      omega
  | enter asked unbuilt unopened declared =>
      have opens := reserve_open declared unopened unbuilt
      simp only [Assembly.openFragment, Assembly.call, asked, prospect, Job.failed, Job.fault?,
        Option.isSome_none, Bool.false_eq_true, if_false, Job.effort, Caller.effort,
        List.map_cons, List.sum_cons]
      omega
  | @leave name node _ finished calls =>
      have moved := @reserve_insert sources assembly.opened.dropLast assembly.built name node
      rw [← (orderly.closed calls).1] at moved
      simp only [finished, calls, moved, prospect, Job.failed, Job.fault?,
        Option.isSome_none, Bool.false_eq_true, if_false, Job.effort, Caller.effort,
        List.map_cons, List.sum_cons]
      omega
  | giveUp failed calls =>
      simp only [failed, calls, prospect, Job.failed, Job.fault?, Option.isSome_some, if_true,
        Job.effort, Caller.effort, List.map_cons, List.sum_cons]
      omega

theorem effort_pos (sources : Sources) (assembly : Assembly) : 0 < sources.effort assembly := by
  have busy : 0 < assembly.job.effort := by
    cases assembly.job <;> simp only [Job.effort, Value.effort] <;> omega
  rw [effort]
  omega

theorem run_of_done {outcome : Except SchemaError Node} (done : assembly.Done outcome)
    (steps : Nat) : sources.run steps assembly = assembly :=
  Function.iterate_fixed (step_of_done done) steps

theorem done_run (orderly : Orderly sources outer assembly) {steps : Nat}
    (enough : sources.effort assembly ≤ steps) :
    ∃ outcome, (sources.run steps assembly).Done outcome := by
  induction steps generalizing assembly with
  | zero => exact absurd (effort_pos sources assembly) (Nat.not_lt.mpr enough)
  | succ steps inSteps =>
      by_cases done : ∃ outcome, assembly.Done outcome
      · obtain ⟨outcome, isDone⟩ := done
        exact ⟨outcome, (run_of_done isDone _).symm ▸ isDone⟩
      · have less := effort_lt_of_change orderly (step_changes (not_exists.mp done))
        exact inSteps orderly.step (by omega)

/-- A build ends with an outcome, and what it opened is closed then. -/
theorem run_ends (orderly : Orderly sources outer assembly) :
    ∃ outcome built, ∀ steps, sources.effort assembly ≤ steps →
      sources.run steps assembly = ⟨.finish outcome, [], outer, built⟩ := by
  obtain ⟨outcome, done⟩ := done_run orderly (Nat.le_refl _)
  have closed := (orderly.run (sources.effort assembly)).stacked
  generalize ended : sources.run (sources.effort assembly) assembly = last at done closed
  obtain ⟨job, waiting, opened, built⟩ := last
  obtain ⟨rfl, rfl⟩ := done
  obtain rfl : opened = outer := by simpa [underway] using closed
  refine ⟨outcome, built, fun steps enough => ?_⟩
  obtain ⟨further, rfl⟩ := Nat.exists_eq_add_of_le' enough
  have stays : sources.run further ⟨.finish outcome, [], opened, built⟩ = _ :=
    run_of_done ⟨rfl, rfl⟩ further
  rw [run_add, ended, stays]

end Sources
end DocShape
