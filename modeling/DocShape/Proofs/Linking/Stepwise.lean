import DocShape.Proofs.Linking.Cycles
import DocShape.Proofs.Linking.Steps

namespace DocShape

/-! Agreement of the build in steps with linking.

Linking reads all fragments before it builds the first one, and it counts down how many may
still be opened.  Its outcome is that of the build in steps wherever there is room for the
fragments that are not open yet.
-/

/-- What linking makes of a job, given what each include stands for. -/
def Job.linked (limit : Nat) (resolve : String → Linking Node) : Job → Linking Node
  | .resolve name => resolve name
  | .node path depth body => (Definition.read limit path depth body).link resolve
  | .fields map => do
      let rest := map.rest.map (Definition.readField limit map.path map.depth)
      return .map (map.fields ++ (← Definition.linkFields resolve rest)) map.allowEmpty
  | .variants seq => do
      let rest := (seq.rest.zipIdx seq.variants.length).map
        (Definition.readVariant limit seq.path seq.depth)
      return .seq (seq.variants ++ (← Definition.linkVariants resolve rest)) seq.matching
  | .finish outcome => Linking.ofExcept outcome

/-- From here the build comes to this outcome for those that wait, and to this table. -/
def Yields (sources : Sources) (assembly : Assembly) (waiting : List Caller)
    (opened : List String) (computed : Except SchemaError (Node × Catalog Node)) : Prop :=
  ∃ steps built,
    sources.run steps assembly = ⟨.finish (computed.map (·.1)), waiting, opened, built⟩ ∧
      ∀ found, computed = .ok found → found.2 = built

section Yields

variable {sources : Sources} {assembly : Assembly} {waiting : List Caller} {opened : List String}
  {built : Catalog Node} {computed : Except SchemaError (Node × Catalog Node)}

theorem yields_ok (node : Node) :
    Yields sources ⟨.finish (.ok node), waiting, opened, built⟩ waiting opened
      (.ok (node, built)) := by
  refine ⟨0, built, rfl, fun found same => ?_⟩
  cases same
  rfl

theorem yields_error (error : SchemaError) :
    Yields sources ⟨.finish (.error error), waiting, opened, built⟩ waiting opened
      (.error error) :=
  ⟨0, built, rfl, nofun⟩

theorem Yields.ofRun {steps : Nat} {between : Assembly} (run : sources.run steps assembly = between)
    (yields : Yields sources between waiting opened computed) :
    Yields sources assembly waiting opened computed := by
  obtain ⟨further, built, ended, table⟩ := yields
  exact ⟨further + steps, built, by rw [Sources.run_add, run, ended], table⟩

theorem Yields.ofStep (yields : Yields sources (sources.step assembly) waiting opened computed) :
    Yields sources assembly waiting opened computed :=
  yields.ofRun (show sources.run 1 assembly = sources.step assembly from rfl)

/-- A caller that opened no fragment goes on with the node, or hands on the fault. -/
theorem Yields.bind {caller : Caller}
    {next : Node × Catalog Node → Except SchemaError (Node × Catalog Node)}
    (ofFirst : Yields sources assembly (caller :: waiting) opened computed)
    (plain : caller.fragment? = none)
    (ofNext : ∀ node built,
      Yields sources
        ({ job := .finish (.ok node), waiting, opened, built : Assembly }.resume (.ok node) caller)
        waiting opened (next (node, built))) :
    Yields sources assembly waiting opened (computed >>= next) := by
  obtain ⟨steps, built, ended, table⟩ := ofFirst
  refine Yields.ofRun ended (Yields.ofStep ?_)
  cases computed with
  | ok found =>
      obtain rfl := table found rfl
      exact ofNext found.1 found.2
  | error error =>
      cases caller with
      | fragment name => cases plain
      | included | field | variant => exact yields_error error

end Yields

section Jobs

variable {sources : Sources} {opened : List String} {resolve : String → Linking Node}
  {limit : Nat}

/-- A job is done as linking does it, whatever is built already and whoever waits. -/
def Job.Agrees (sources : Sources) (opened : List String) (limit : Nat)
    (resolve : String → Linking Node) (job : Job) : Prop :=
  ∀ waiting built,
    Yields sources ⟨job, waiting, opened, built⟩ waiting opened (job.linked limit resolve built)

/-- The fields are linked one after the other. -/
theorem linked_fields_cons {path : String} {depth : Nat} {allowEmpty : Bool}
    {fields : List (Field Node)} (field : Value × Value) (rest : Entries) (built : Catalog Node) :
    (Job.fields ⟨path, depth, allowEmpty, fields, field :: rest⟩).linked limit resolve built =
      ((Definition.readField limit path depth field).1.link resolve built >>= fun found =>
        (Definition.readField limit path depth field).2 >>= fun named =>
          (Job.fields ⟨path, depth, allowEmpty, fields ++ [⟨named.1, named.2, found.1⟩],
            rest⟩).linked limit resolve found.2) := by
  generalize isRead : Definition.readField limit path depth field = read
  obtain ⟨definition, label⟩ := read
  simp only [Job.linked, List.map_cons, isRead, Definition.linkFields, bind, StateT.bind]
  cases definition.link resolve built with
  | error error => rfl
  | ok found =>
      cases label with
      | error error => rfl
      | ok named =>
          simp only [Linking.ofExcept, Except.bind, Linking.pure_apply]
          cases Definition.linkFields resolve _ found.2 with
          | error error => rfl
          | ok others => simp

theorem fields_agree {map : PartialMap}
    (ofChild : ∀ field ∈ map.rest, ∀ path,
      (Job.node path (map.depth + 1) field.2).Agrees sources opened limit resolve) :
    (Job.fields map).Agrees sources opened limit resolve := by
  obtain ⟨path, depth, allowEmpty, fields, rest⟩ := map
  induction rest generalizing fields with
  | nil =>
      intro waiting built
      have linked :
          (Job.fields ⟨path, depth, allowEmpty, fields, []⟩).linked limit resolve built =
            .ok (.map (fields ++ []) allowEmpty, built) := rfl
      rw [linked, List.append_nil]
      exact (yields_ok _).ofStep
  | cons field rest inRest =>
      intro waiting built
      obtain ⟨key, child⟩ := field
      obtain ⟨ofField, ofRest⟩ := List.forall_mem_cons.mp ofChild
      rw [linked_fields_cons]
      refine Yields.ofStep ?_
      simp only [Sources.step, Assembly.stepFields, Definition.readField]
      cases key.text? with
      | none => exact yields_error _
      | some name =>
          simp only
          cases Definition.requiredOf (path ++ "." ++ name) child with
          | error error => exact yields_error _
          | ok required =>
              refine Yields.bind (ofField _ _ _) rfl fun node built => ?_
              simp only [Assembly.resume]
              cases Definition.labelOf (path ++ "." ++ name) name required with
              | error error => exact yields_error _
              | ok label => exact inRest _ ofRest waiting built

/-- The element shapes are linked one after the other. -/
theorem linked_variants_cons {path : String} {depth : Nat} {matching : Matching}
    {variants : List Node} {variant : Value} {rest : List Value} (built : Catalog Node) :
    (Job.variants ⟨path, depth, matching, variants, variant :: rest⟩).linked limit resolve built =
      ((Definition.readVariant limit path depth (variant, variants.length)).link resolve built >>=
        fun found =>
          (Job.variants ⟨path, depth, matching, variants ++ [found.1], rest⟩).linked limit resolve
            found.2) := by
  simp only [Job.linked, List.zipIdx_cons, List.map_cons, Definition.linkVariants, bind,
    StateT.bind]
  cases Definition.link resolve _ built with
  | error error => rfl
  | ok found =>
      simp only [Except.bind, Linking.pure_apply, List.length_append, List.length_singleton]
      cases Definition.linkVariants resolve _ found.2 with
      | error error => rfl
      | ok others => simp

theorem variants_agree {seq : PartialSeq}
    (ofChild : ∀ variant ∈ seq.rest, ∀ path,
      (Job.node path (seq.depth + 1) variant).Agrees sources opened limit resolve) :
    (Job.variants seq).Agrees sources opened limit resolve := by
  obtain ⟨path, depth, matching, variants, rest⟩ := seq
  induction rest generalizing variants with
  | nil =>
      intro waiting built
      have linked :
          (Job.variants ⟨path, depth, matching, variants, []⟩).linked limit resolve built =
            .ok (.seq (variants ++ []) matching, built) := rfl
      rw [linked, List.append_nil]
      exact (yields_ok _).ofStep
  | cons variant rest inRest =>
      intro waiting built
      obtain ⟨ofVariant, ofRest⟩ := List.forall_mem_cons.mp ofChild
      rw [linked_variants_cons]
      exact Yields.ofStep (Yields.bind (ofVariant _ _ _) rfl fun node built =>
        inRest _ ofRest waiting built)

section Node

variable (limited : sources.limit = some limit)
  (resolves : ∀ name, (Job.resolve name).Agrees sources opened limit resolve)

include limited resolves

/-- A definition is built as it is read, as long as its includes are resolved alike. -/
theorem node_agrees {path : String} {depth : Nat} {body : Value} :
    (Job.node path depth body).Agrees sources opened limit resolve := by
  intro waiting built
  refine Yields.ofStep ?_
  simp only [Sources.step, Sources.stepNode, limited, Job.linked]
  by_cases deep : limit < depth
  · have refused : Definition.read limit path depth body = .refused (.tooDeep path limit) := by
      cases body <;> simp only [Definition.read, deep, if_true]
    simp only [refused, Option.filter_some, decide_eq_true deep, if_true]
    exact yields_error _
  · simp only [Option.filter_some, decide_eq_false deep, Bool.false_eq_true, if_false]
    cases body with
    | map entries =>
        rw [Definition.read_map (Nat.le_of_not_lt deep)]
        simp only
        cases Heading.read path entries with
        | error error => exact yields_error _
        | ok heading =>
            cases heading with
            | included name =>
                exact Yields.bind (resolves name _ _) rfl fun node built => yields_ok _
            | map keyword allowEmpty =>
                exact fields_agree (fun field _ path => node_agrees) waiting built
            | seq keyword matching =>
                exact variants_agree (fun variant _ path => node_agrees) waiting built
            | scalar leaf => exact yields_ok _
    | _ =>
        rw [Definition.read, if_neg deep]
        · exact yields_error _
        · simp
termination_by limit + 1 - depth

end Node

end Jobs

/-- The fragments as linking has them, all read in advance. -/
def Sources.scope (sources : Sources) (limit : Nat) : Scope :=
  Source.scopeWith sources.registered limit sources.declared

section Fragments

variable {sources : Sources} {limit : Nat}

/-- A fragment is closed again with its node put into the table, or without. -/
theorem Yields.closing {assembly : Assembly} {waiting : List Caller} {opened : List String}
    {name : String}
    {computed : Except SchemaError (Node × Catalog Node)}
    (yields : Yields sources assembly (.fragment name :: waiting) (opened ++ [name]) computed) :
    Yields sources assembly waiting opened
      (computed.map fun found => (found.1, found.2.insert name found.1)) := by
  obtain ⟨steps, built, ended, table⟩ := yields
  refine Yields.ofRun ended (Yields.ofStep ?_)
  cases computed with
  | ok found =>
      obtain rfl := table found rfl
      simp only [Sources.step, Except.map, Assembly.stepFinish, Assembly.resume,
        List.dropLast_concat]
      exact yields_ok _
  | error error =>
      simp only [Sources.step, Except.map, Assembly.stepFinish, Assembly.resume,
        List.dropLast_concat]
      exact yields_error _

/-- An include stands for what linking resolves it to, with room for the fragments that are
not open. -/
theorem resolve_agrees (limited : sources.limit = some limit) (room : Nat) (opened : List String)
    (fits : (sources.scope limit).Fits room opened) (name : String) :
    (Job.resolve name).Agrees sources opened limit
      ((sources.scope limit).resolve room opened) := by
  intro waiting built
  refine Yields.ofStep ?_
  simp only [Job.linked, Scope.resolve_eq, Sources.step, Sources.stepResolve]
  cases built.find? name with
  | some node => exact yields_ok node
  | none =>
      by_cases isOpen : opened.contains name = true
      · rw [if_pos isOpen, if_pos isOpen]
        exact yields_error _
      · rw [if_neg isOpen, if_neg isOpen]
        have isRead : (sources.scope limit).declared.find? name =
            (sources.declared.find? name).map (.read limit (Source.fragmentPath name) 0) :=
          Catalog.find?_map _
        rw [isRead]
        cases declared : sources.declared.find? name with
        | none =>
            have sameRegistered : (sources.scope limit).registered = sources.registered := rfl
            simp only [Option.map_none, sameRegistered]
            cases sources.registered.find? name with
            | some node => exact yields_ok node
            | none => exact yields_error _
        | some body =>
            have isDeclared : (sources.scope limit).declared.contains name = true := by
              rw [Catalog.contains_eq_isSome_find?, isRead, declared]
              rfl
            obtain ⟨inner, rfl, fitsInside⟩ := fits.insert (by simpa using isOpen) isDeclared
            have ofBody : (Job.node (Source.fragmentPath name) 0 body).Agrees sources
                (opened ++ [name]) limit ((sources.scope limit).resolve inner (opened ++ [name])) :=
              node_agrees limited (resolve_agrees limited inner _ fitsInside)
            exact (ofBody (.fragment name :: waiting) built).closing
termination_by room

theorem job_agrees (limited : sources.limit = some limit) {room : Nat} {opened : List String}
    (fits : (sources.scope limit).Fits room opened) (job : Job) :
    job.Agrees sources opened limit ((sources.scope limit).resolve room opened) := by
  have resolves := resolve_agrees limited room opened fits
  cases job with
  | resolve name => exact resolves name
  | node path depth body => exact node_agrees limited resolves
  | fields map => exact fields_agree fun field _ path => node_agrees limited resolves
  | variants seq => exact variants_agree fun variant _ path => node_agrees limited resolves
  | finish outcome =>
      intro waiting built
      cases outcome with
      | ok node => exact yields_ok node
      | error error => exact yields_error error

/-- In an orderly build there is room for the fragments that are not open. -/
theorem Orderly.fits {outer : List String} {assembly : Assembly}
    (orderly : Orderly sources outer assembly) {room : Nat}
    (enough : sources.declared.size ≤ assembly.opened.length + room) :
    (sources.scope limit).Fits room assembly.opened := by
  constructor
  case distinct => exact orderly.distinct
  case declared =>
    intro name member
    rw [Sources.scope, Source.contains_scopeWith]
    exact orderly.declared name member
  case enough => simpa [Sources.scope, Source.scopeWith, Catalog.size, Catalog.map] using enough

end Fragments

namespace Sources

variable {sources : Sources} {job : Job} {opened : List String} {built : Catalog Node}

/-- Without regard to a limit every job comes to an end, with the fragments closed that it
opened.  On the way there the open fragments are distinct declared ones that are not built, so
that no more builds are nested than fragments are declared.  Where there is a limit, the end is
what linking comes to with any sufficient room. -/
theorem build_ends_orderly (orderly : Orderly sources opened ⟨job, [], opened, built⟩) :
    (∃ outcome after,
      (∀ steps, sources.effort ⟨job, [], opened, built⟩ ≤ steps →
        sources.run steps ⟨job, [], opened, built⟩ = ⟨.finish outcome, [], opened, after⟩) ∧
      ∀ limit room, sources.limit = some limit → sources.declared.size ≤ opened.length + room →
        let computed := job.linked limit ((sources.scope limit).resolve room opened) built
        computed.map (·.1) = outcome ∧ ∀ found, computed = .ok found → found.2 = after) ∧
    ∀ steps,
      let current := sources.run steps ⟨job, [], opened, built⟩
      current.opened = opened ++ underway current.waiting ∧ current.opened.Nodup ∧
        (∀ name ∈ current.opened,
          sources.declared.contains name = true ∧ current.built.contains name = false) ∧
        opened.length + (underway current.waiting).length ≤ sources.declared.size := by
  obtain ⟨outcome, after, ends⟩ := run_ends orderly
  refine ⟨⟨outcome, after, ends, fun limit room limited enough => ?_⟩, fun steps => ?_⟩
  · obtain ⟨steps, table, ended, stored⟩ :=
      job_agrees limited (orderly.fits enough) job [] built
    have same := ends (sources.effort _ + steps) (Nat.le_add_right _ _)
    rw [run_add, ended, run_of_done ⟨rfl, rfl⟩] at same
    cases same
    exact ⟨rfl, stored⟩
  · have current := orderly.run steps
    have bounded := current.length_opened_le
    rw [current.stacked, List.length_append] at bounded
    exact ⟨current.stacked, current.distinct,
      fun name member => ⟨current.declared name member, current.unbuilt name member⟩, bounded⟩

/-- Two fragments that include each other, entered while one of them is open. -/
theorem build_ends_orderly_crossing :
    let sources : Sources := ⟨.empty, Source.crossing, none⟩
    let start : Assembly := ⟨.resolve "list", [], ["pair"], .empty⟩
    Orderly sources ["pair"] start ∧
      (∃ after, ∀ steps, sources.effort start ≤ steps →
        sources.run steps start =
          ⟨.finish (.error (.includeCycle ["pair", "list", "pair"])), [], ["pair"], after⟩) ∧
      ∀ steps, 1 + (underway (sources.run steps start).waiting).length ≤ 2 := by
  intro sources start
  have orderly : Orderly sources ["pair"] start := by
    constructor
    case stacked => rfl
    case distinct => exact List.nodup_singleton _
    case declared => exact List.forall_mem_singleton.mpr (by decide +kernel)
    case unbuilt => exact List.forall_mem_singleton.mpr rfl
  obtain ⟨⟨outcome, after, ends, _⟩, nested⟩ := build_ends_orderly orderly
  have cycle : (sources.run (sources.effort start) start).job.fault? =
      some (.includeCycle ["pair", "list", "pair"]) := by decide +kernel
  rw [ends _ (Nat.le_refl _)] at cycle
  cases outcome with
  | ok node => cases cycle
  | error error =>
      cases cycle
      exact ⟨orderly, ⟨after, ends⟩, fun steps => (nested steps).2.2.2⟩

end Sources
end DocShape
