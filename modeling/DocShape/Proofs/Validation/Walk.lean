import DocShape.Proofs.Validation.Location

namespace DocShape

/-! Validation as a walk through the document.

The walk keeps in its state where it stands and what it has reported so far.  It takes a step
down before it looks at a part of a value and takes it back afterwards, and tries the shapes
of an element by walks of their own, which start with no report from where it stands.
-/

/-- Where a walk stands, and what it has reported so far. -/
structure Walk where
  path : DocPath
  found : List Violation

namespace Walk

open Validation

def report (kind : ViolationKind) (expected actual : String) (causes : List Violation) :
    StateM Walk Unit :=
  modify fun walk =>
    { walk with found := walk.found ++ [.mk walk.path kind expected actual causes] }

def enter (step : Segment) : StateM Walk Unit :=
  modify fun walk => { walk with path := walk.path ++ [step] }

def leave : StateM Walk Unit :=
  modify fun walk => { walk with path := walk.path.dropLast }

/-- What lies a step below. -/
def within (step : Segment) (visit : StateM Walk Unit) : StateM Walk Unit := do
  enter step
  visit
  leave

def place : StateM Walk DocPath := do
  let walk ← get
  return walk.path

/-- What is reported on a walk that starts at this path. -/
def outcome (path : DocPath) (visit : StateM Walk Unit) : List Violation :=
  (visit.run ⟨path, []⟩).2.found

def visitEmptiness (leaf : Scalar) : Value → StateM Walk Unit
  | .string text => do
      if text.isEmpty && !leaf.allowEmpty then
        report .emptyValue "non-empty str" "empty str" []
  | _ => pure ()

def visitPattern (leaf : Scalar) : Value → StateM Walk Unit
  | .string text =>
      match leaf.pattern with
      | some pattern => do
          if !pattern.isMatch text then
            report .patternMismatch ("str matching " ++ pattern.text)
              (Value.summary (.string text)) []
      | none => pure ()
  | _ => pure ()

def visitAllowed (leaf : Scalar) (value : Value) : StateM Walk Unit := do
  if !leaf.allowed.isEmpty && !leaf.allowed.any value.same then
    report .enumMismatch ("one of " ++ ", ".intercalate (leaf.allowed.map Value.summary))
      value.summary []

def visitRange (leaf : Scalar) (value : Value) : StateM Walk Unit :=
  match leaf.range, measure? value with
  | some range, some (measured, label) => do
      if !range.contains measured then
        report .rangeViolation (label ++ range.text) value.summary []
  | _, _ => pure ()

def visitScalar (leaf : Scalar) (value : Value) : StateM Walk Unit :=
  if leaf.kind = .any then pure ()
  else if kindMatches leaf.kind value then do
    visitEmptiness leaf value
    visitPattern leaf value
    visitAllowed leaf value
    visitRange leaf value
  else report .typeMismatch leaf.kind.name value.summary []

/-- Looks up a literal field's name; `visitFound` looks at what stands under it. -/
def visitLiteral (entries : Entries) (key : FieldKey) (required : Bool) (shape : String)
    (visitFound : Value → StateM Walk Unit) : StateM Walk Unit :=
  match key.literal? with
  | none => pure ()
  | some name =>
      match literalValue? entries name with
      | some found => within (.key name) (visitFound found)
      | none => do
          if required then
            within (.key name) (report .missingField shape "nothing" [])

/-- Reports an element if there are shapes that it fails. -/
def reportElement (config : Config) (variants : List Node) (matching : Matching) (item : Value) :
    Option (List (List Violation)) → StateM Walk Unit
  | some failed =>
      report .elementMismatch (Node.variantsText variants matching) item.summary
        (explained config.elementReport failed)
  | none => pure ()

mutual

def visit (config : Config) : Node → Value → StateM Walk Unit
  | .map fields allowEmpty, value =>
      match value.content with
      | .map entries => do
          visitLiterals config entries fields
          entries.forM fun entry => do
            if !claims fields entry.1 then
              let keyText := entry.1.keyText
              within (.key keyText) do
                let matched ← visitPatterns config keyText entry.2 fields
                if !matched && !allowEmpty then
                  report .unexpectedField (Node.keysText fields) ("key `" ++ keyText ++ "`") []
      | other => report .typeMismatch "map" other.summary []
  | .seq [only] _, value =>
      match value.content with
      | .seq items =>
          items.zipIdx.forM fun element =>
            within (.index element.2) (visit config only element.1)
      | other => report .typeMismatch "seq" other.summary []
  | .seq variants matching, value =>
      match value.content with
      | .seq items =>
          items.zipIdx.forM fun element =>
            within (.index element.2) do
              let here ← place
              reportElement config variants matching element.1
                (tryVariants config here matching element.1 [] variants)
      | other => report .typeMismatch "seq" other.summary []
  | .scalar leaf, value => visitScalar leaf value.content
  | .included _ target, value => visit config target value

def visitLiterals (config : Config) (entries : Entries) : List (Field Node) → StateM Walk Unit
  | [] => pure ()
  | ⟨key, required, node⟩ :: rest => do
      visitLiteral entries key required node.shape (visit config node)
      visitLiterals config entries rest

/-- Tells whether a pattern field applied to the key. -/
def visitPatterns (config : Config) (keyText : String) (value : Value) :
    List (Field Node) → StateM Walk Bool
  | [] => pure false
  | ⟨key, _, node⟩ :: rest =>
      if key.pattern?.any (·.isMatch keyText) then do
        visit config node value
        if config.patternMatch = .first then pure true
        else
          let _ ← visitPatterns config keyText value rest
          pure true
      else visitPatterns config keyText value rest

/-- The reports of the shapes that fail, behind those that failed before; nothing if the
element passes.  Where one shape is enough the first that accepts ends the search. -/
def tryVariants (config : Config) (path : DocPath) (matching : Matching) (item : Value)
    (failed : List (List Violation)) : List Node → Option (List (List Violation))
  | [] => if failed.isEmpty then none else some failed
  | variant :: rest =>
      let tried := outcome path (visit config variant item)
      if tried.isEmpty then
        if matching = .any then none
        else tryVariants config path matching item failed rest
      else tryVariants config path matching item (failed ++ [tried]) rest

end

/-- Looks at the elements of a sequence by the general rule, which tries every shape. -/
def visitElements (config : Config) (variants : List Node) (matching : Matching)
    (items : List Value) : StateM Walk Unit :=
  items.zipIdx.forM fun element =>
    within (.index element.2) do
      let here ← place
      reportElement config variants matching element.1
        (tryVariants config here matching element.1 [] variants)

section Reports

variable {α β : Type} {path : DocPath} {violations rest : List Violation}

/-- From this path on, the walk adds these violations to what it has reported, and comes back
to the path with this answer. -/
def Reports (path : DocPath) (visit : StateM Walk α) (answer : α) (violations : List Violation) :
    Prop :=
  ∀ found, visit.run ⟨path, found⟩ = (answer, ⟨path, found ++ violations⟩)

theorem Reports.outcome {visit : StateM Walk Unit} (reports : Reports path visit () violations) :
    Walk.outcome path visit = violations := by
  rw [Walk.outcome, reports []]
  rfl

theorem reports_pure (answer : α) : Reports path (pure answer) answer [] := by
  intro found
  rw [List.append_nil]
  rfl

theorem reports_report (kind : ViolationKind) (expected actual : String)
    (causes : List Violation) :
    Reports path (report kind expected actual causes) () [.mk path kind expected actual causes] :=
  fun _ => rfl

theorem Reports.bind {first : StateM Walk α} {next : α → StateM Walk β} {answer : α} {last : β}
    (ofFirst : Reports path first answer violations)
    (ofNext : Reports path (next answer) last rest) :
    Reports path (first >>= next) last (violations ++ rest) := by
  intro found
  have run : (first >>= next).run ⟨path, found⟩ =
      (next (first.run ⟨path, found⟩).1).run (first.run ⟨path, found⟩).2 := rfl
  rw [run, ofFirst, ofNext, List.append_assoc]

/-- A step down is taken back after the part below it. -/
theorem Reports.within {visit : StateM Walk Unit} {step : Segment}
    (reports : Reports (path ++ [step]) visit () violations) :
    Reports path (Walk.within step visit) () violations := by
  intro found
  have run : (Walk.within step visit).run ⟨path, found⟩ =
      leave.run (visit.run ⟨path ++ [step], found⟩).2 := rfl
  rw [run, reports]
  simp only [leave, StateT.run_modify, List.dropLast_concat]
  rfl

theorem Reports.ofPlace {next : DocPath → StateM Walk α} {answer : α}
    (reports : Reports path (next path) answer violations) :
    Reports path (place >>= next) answer violations :=
  reports

theorem Reports.onlyIf {visit : StateM Walk Unit} {condition : Prop} [Decidable condition]
    (reports : Reports path visit () violations) :
    Reports path (if condition then visit else pure ()) ()
      (if condition then violations else []) := by
  split
  · exact reports
  · exact reports_pure ()

theorem Reports.unless {visit : StateM Walk Unit} {flag : Bool}
    (reports : Reports path visit () violations) :
    Reports path (if !flag then visit else pure ()) () (if flag then [] else violations) := by
  cases flag with
  | true => exact reports_pure ()
  | false => exact reports

theorem reports_forM {members : List α} {visit : α → StateM Walk Unit}
    {violations : α → List Violation}
    (each : ∀ member ∈ members, Reports path (visit member) () (violations member)) :
    Reports path (members.forM visit) () (members.flatMap violations) := by
  induction members with
  | nil => exact reports_pure ()
  | cons member rest inRest =>
      obtain ⟨ofMember, ofRest⟩ := List.forall_mem_cons.mp each
      exact ofMember.bind (inRest ofRest)

end Reports

variable {config : Config} {path : DocPath}

theorem visitEmptiness_reports (leaf : Scalar) (value : Value) :
    Reports path (visitEmptiness leaf value) () (emptiness path leaf value) := by
  cases value with
  | string text => exact (reports_report _ _ _ []).onlyIf
  | _ => exact reports_pure ()

theorem visitPattern_reports (leaf : Scalar) (value : Value) :
    Reports path (visitPattern leaf value) () (patternFault path leaf value) := by
  cases value with
  | string text =>
      simp only [visitPattern, patternFault]
      cases leaf.pattern with
      | none => exact reports_pure ()
      | some pattern => exact (reports_report _ _ _ []).unless
  | _ => exact reports_pure ()

theorem visitAllowed_reports (leaf : Scalar) (value : Value) :
    Reports path (visitAllowed leaf value) () (allowedFault path leaf value) := by
  unfold visitAllowed allowedFault
  rw [← Bool.not_or]
  exact (reports_report _ _ _ []).unless

theorem visitRange_reports (leaf : Scalar) (value : Value) :
    Reports path (visitRange leaf value) () (rangeFault path leaf value) := by
  unfold visitRange rangeFault
  cases leaf.range with
  | none => exact reports_pure ()
  | some range =>
      cases measure? value with
      | none => exact reports_pure ()
      | some measured => exact (reports_report _ _ _ []).unless

theorem visitScalar_reports (leaf : Scalar) (value : Value) :
    Reports path (visitScalar leaf value) () (scalarViolations path leaf value) := by
  unfold visitScalar scalarViolations
  split
  · exact reports_pure ()
  · split
    · simp only [List.append_assoc]
      exact (visitEmptiness_reports leaf value).bind ((visitPattern_reports leaf value).bind
        ((visitAllowed_reports leaf value).bind (visitRange_reports leaf value)))
    · exact reports_report _ _ _ []

/-- Wherever the walk comes to the node with a value, it reports what the check does. -/
def Faithful (config : Config) (node : Node) : Prop :=
  ∀ path value, Reports path (visit config node value) () (check config path node value)

section Fields

variable {fields : List (Field Node)} {entries : Entries}

theorem visitLiteral_reports {field : Field Node} (faithful : Faithful config field.node) :
    Reports path
      (visitLiteral entries field.key field.required field.node.shape (visit config field.node)) ()
      (literalViolations config path entries field) := by
  unfold visitLiteral literalViolations
  cases field.key.literal? with
  | none => exact reports_pure ()
  | some name =>
      simp only
      cases literalValue? entries name with
      | none => exact (reports_report _ _ _ []).within.onlyIf
      | some found => exact (faithful _ found).within

theorem visitLiterals_reports (faithful : ∀ field ∈ fields, Faithful config field.node) :
    Reports path (visitLiterals config entries fields) ()
      (fields.flatMap (literalViolations config path entries)) := by
  induction fields with
  | nil =>
      rw [visitLiterals]
      exact reports_pure ()
  | cons field rest inRest =>
      obtain ⟨ofField, ofRest⟩ := List.forall_mem_cons.mp faithful
      rw [visitLiterals]
      exact (visitLiteral_reports ofField).bind (inRest ofRest)

theorem visitPatterns_reports (text : String) (value : Value)
    (faithful : ∀ field ∈ fields, Faithful config field.node) :
    Reports path (visitPatterns config text value fields)
      (!(checkPatterns config path text value fields).isEmpty)
      (checkPatterns config path text value fields).flatten := by
  induction fields with
  | nil =>
      rw [visitPatterns, checkPatterns]
      exact reports_pure false
  | cons field rest inRest =>
      obtain ⟨ofField, ofRest⟩ := List.forall_mem_cons.mp faithful
      rw [visitPatterns, checkPatterns]
      split
      · rw [List.flatten_cons]
        refine (ofField path value).bind ?_
        split
        · exact reports_pure true
        · have further : Reports path
              (do let _ ← visitPatterns config text value rest; pure true) true _ :=
            (inRest ofRest).bind (reports_pure true)
          rwa [List.append_nil] at further
      · exact inRest ofRest

theorem unclaimedViolations_eq_append (allowEmpty : Bool) (text : String)
    (outcomes : List (List Violation)) :
    unclaimedViolations path fields allowEmpty text outcomes =
      outcomes.flatten ++
        if outcomes.isEmpty && !allowEmpty then
          [.mk path .unexpectedField (Node.keysText fields) ("key `" ++ text ++ "`") []]
        else [] := by
  unfold unclaimedViolations
  cases outcomes with
  | nil => rfl
  | cons first others => exact (List.append_nil _).symm

theorem visitPatterns_within_reports {allowEmpty : Bool} (entry : Value × Value)
    (faithful : ∀ field ∈ fields, Faithful config field.node) :
    Reports path
      (within (.key entry.1.keyText) do
        let matched ← visitPatterns config entry.1.keyText entry.2 fields
        if !matched && !allowEmpty then
          report .unexpectedField (Node.keysText fields) ("key `" ++ entry.1.keyText ++ "`") [])
      () (patternViolations config path fields allowEmpty entry) := by
  refine Reports.within ?_
  rw [patternViolations, ← checkPatterns_eq_map, unclaimedViolations_eq_append]
  refine (visitPatterns_reports entry.1.keyText entry.2 faithful).bind ?_
  rw [Bool.not_not]
  exact (reports_report _ _ _ []).onlyIf

end Fields

theorem map_faithful {fields : List (Field Node)} {allowEmpty : Bool}
    (ofField : ∀ field ∈ fields, Faithful config field.node) :
    Faithful config (.map fields allowEmpty) := by
  intro path value
  rw [visit]
  split
  · rename_i entries isMap
    rw [check_map isMap]
    refine (visitLiterals_reports ofField).bind (reports_forM fun entry _ => ?_)
    cases claims fields entry.1 with
    | true => exact reports_pure ()
    | false => exact visitPatterns_within_reports entry ofField
  · rename_i other notMap
    rw [check_map_of_not_map notMap]
    exact reports_report _ _ _ []

section Variants

variable {variants : List Node} {matching : Matching} {item : Value}

theorem visit_seq_several {value : Value} {items : List Value} (several : variants.length ≠ 1)
    (isSeq : value.content = .seq items) :
    visit config (.seq variants matching) value =
      visitElements config variants matching items := by
  match variants with
  | [] => simp only [visit, isSeq, visitElements]
  | [_] => exact absurd rfl several
  | _ :: _ :: _ => simp only [visit, isSeq, visitElements]

theorem visit_seq_of_not_seq {value : Value} (other : ∀ items, value.content ≠ .seq items) :
    visit config (.seq variants matching) value =
      report .typeMismatch "seq" value.content.summary [] := by
  match variants with
  | [] | [_] | _ :: _ :: _ => simp only [visit]

/-- The search ends with the failures, if there are any and none of the shapes is enough. -/
theorem tryVariants_eq (faithful : ∀ variant ∈ variants, Faithful config variant)
    (failed : List (List Violation)) {outcomes : List (List Violation)}
    (outcomesAre : outcomes = variants.map fun variant => check config path variant item) :
    tryVariants config path matching item failed variants =
      if (failed ++ failures outcomes).isEmpty || matching == .any && outcomes.any List.isEmpty then
        none
      else some (failed ++ failures outcomes) := by
  subst outcomesAre
  induction variants generalizing failed with
  | nil => simp [tryVariants, failures]
  | cons variant rest inRest =>
      obtain ⟨ofVariant, ofRest⟩ := List.forall_mem_cons.mp faithful
      rw [tryVariants, (ofVariant path item).outcome, List.map_cons]
      simp only [inRest ofRest, List.any_cons]
      cases check config path variant item with
      | nil =>
          cases matching with
          | any => simp
          | all => rfl
      | cons violation others =>
          have split (later : List (List Violation)) :
              failed ++ failures ((violation :: others) :: later) =
                failed ++ [violation :: others] ++ failures later := by
            rw [List.append_assoc]
            rfl
          rw [split]
          rfl

theorem element_reports (faithful : ∀ variant ∈ variants, Faithful config variant) :
    Reports path
      (do
        let here ← place
        reportElement config variants matching item
          (tryVariants config here matching item [] variants))
      ()
      (elementViolations config path variants matching item
        (variants.map fun variant => check config path variant item)) := by
  refine Reports.ofPlace ?_
  rw [tryVariants_eq faithful [] rfl, elementViolations, causes?_eq_ite, List.nil_append]
  split
  · exact reports_pure ()
  · exact reports_report _ _ _ _

theorem visitElements_reports (faithful : ∀ variant ∈ variants, Faithful config variant)
    (items : List Value) :
    Reports path (visitElements config variants matching items) ()
      (items.zipIdx.flatMap fun element =>
        elementViolations config (path ++ [.index element.2]) variants matching element.1
          (variants.map fun variant =>
            check config (path ++ [.index element.2]) variant element.1)) :=
  reports_forM fun _ _ => (element_reports faithful).within

end Variants

theorem seq_faithful {variants : List Node} {matching : Matching}
    (ofVariant : ∀ variant ∈ variants, Faithful config variant) :
    Faithful config (.seq variants matching) := by
  intro path value
  by_cases sequence : ∃ items, value.content = .seq items
  · obtain ⟨items, isSeq⟩ := sequence
    by_cases single : variants.length = 1
    · obtain ⟨only, rfl⟩ := List.length_eq_one_iff.mp single
      simp only [visit, isSeq]
      rw [check_seq_one isSeq]
      exact reports_forM fun element _ => (ofVariant only (by simp) _ element.1).within
    · rw [visit_seq_several single isSeq, check_seq_several single isSeq]
      exact visitElements_reports ofVariant items
  · have notSeq := not_exists.mp sequence
    rw [visit_seq_of_not_seq notSeq, check_seq_of_not_seq notSeq]
    exact reports_report _ _ _ []

theorem visit_faithful (node : Node) : Faithful config node := by
  induction node using Node.induction with
  | map fields allowEmpty ofField => exact map_faithful ofField
  | seq variants matching ofVariant => exact seq_faithful ofVariant
  | scalar leaf =>
      intro path value
      rw [visit, check_scalar]
      exact visitScalar_reports leaf value.content
  | included name target ofTarget =>
      intro path value
      rw [visit, check_included]
      exact ofTarget path value

/-- A walk that starts at a path reports what one from the top does, with all paths put below
that path.  Begun in any state, it adds this report for the path where it stands to what it has
reported, and comes back to that path. -/
theorem visit_located (config : Config) (node : Node) (value : Value) :
    outcome [] (visit config node value) = check config [] node value ∧
      (∀ path, outcome path (visit config node value) =
        (outcome [] (visit config node value)).map (.under path)) ∧
      ∀ walk : Walk, (visit config node value).run walk =
        ((), { walk with found := walk.found ++ outcome walk.path (visit config node value) }) := by
  have reported (path : DocPath) :
      outcome path (visit config node value) = check config path node value :=
    (visit_faithful node path value).outcome
  refine ⟨reported [], fun path => ?_, fun walk => ?_⟩
  · have moved := @check_append config path [] node value
    rwa [List.append_nil, ← reported, ← reported] at moved
  · rw [reported]
    exact visit_faithful node walk.path value walk.found

end Walk
end DocShape
