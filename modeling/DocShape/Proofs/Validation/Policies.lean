import DocShape.Proofs.Causes
import DocShape.Proofs.Validation.Comparison

namespace DocShape

/-! What the two policies of a configuration change in a report.

How much is told about failed shapes changes causes only: the shorter report has the same
violations, and what it tells about each of them is part of what the longer one tells.  With
all pattern fields applied instead of the first, violations are added and none is lost.
-/

/-- The same violation, told with less: its causes are abridgements, one to one and in order,
of a contiguous block of the causes of the other. -/
inductive Violation.Abridges : Violation → Violation → Prop where
  | mk {path : DocPath} {kind : ViolationKind} {expected actual : String}
      {causes block full : List Violation} (contiguous : block <:+: full)
      (each : List.Forall₂ Abridges causes block) :
      Abridges (.mk path kind expected actual causes) (.mk path kind expected actual full)

namespace Violation

variable {short full : Violation} {told fuller : List Violation}

theorem Abridges.refl (violation : Violation) : violation.Abridges violation := by
  induction violation using Violation.induction with
  | mk path kind expected actual causes ofCauses =>
      exact .mk (List.infix_refl causes) (List.forall₂_same.mpr ofCauses)

theorem Abridges.bare_eq (abridges : short.Abridges full) : short.bare = full.bare := by
  cases abridges
  rfl

theorem map_bare_eq_of_abridges (each : List.Forall₂ Abridges told fuller) :
    told.map bare = fuller.map bare := by
  induction each with
  | nil => rfl
  | cons first _ ofRest => rw [List.map_cons, List.map_cons, first.bare_eq, ofRest]

theorem Abridges.causes_infix (abridges : short.Abridges full) :
    short.causes.map bare <:+: full.causes.map bare := by
  cases abridges with
  | mk contiguous each =>
      simp only [causes, map_bare_eq_of_abridges each]
      exact contiguous.map bare

end Violation

namespace Validation

variable {first second : Config} {agree : List Violation → List Violation → Prop}

/-- A comparison of reports on one document that two configurations keep wherever one of them
is consulted: at the shapes of an element and at the pattern fields of a key. -/
structure Comparable (first second : Config) (agree : List Violation → List Violation → Prop) :
    Prop extends Composes agree where
  element : ∀ {path variants matching item outcomes others}, List.Forall₂ agree outcomes others →
    agree (elementViolations first path variants matching item outcomes)
      (elementViolations second path variants matching item others)
  entry : ∀ {path fields allowEmpty entry},
    (∀ field ∈ fields, agree (check first (path ++ [.key entry.1.keyText]) field.node entry.2)
      (check second (path ++ [.key entry.1.keyText]) field.node entry.2)) →
    agree (patternViolations first path fields allowEmpty entry)
      (patternViolations second path fields allowEmpty entry)

theorem Comparable.check (comparable : Comparable first second agree) (path : DocPath)
    (node : Node) (value : Value) :
    agree (check first path node value) (check second path node value) := by
  have composes := comparable.toComposes
  induction node using Node.induction generalizing path value with
  | map fields allowEmpty ofField =>
      by_cases mapping : ∃ entries : Entries, value.content = .map entries
      · obtain ⟨entries, mapping⟩ := mapping
        rw [check_map mapping, check_map mapping]
        refine composes.append ?_ (composes.flatMap (List.forall₂_same.mpr fun entry _ => ?_))
        · refine composes.literals fun field member name _ => ?_
          cases literalValue? entries name with
          | none => exact .none
          | some stored => exact .some (ofField field member _ stored)
        · split
          · exact composes.refl []
          · exact comparable.entry fun field member => ofField field member _ entry.2
      · rw [check_map_of_not_map (not_exists.mp mapping),
          check_map_of_not_map (not_exists.mp mapping)]
        exact composes.refl _
  | seq variants matching ofVariant =>
      by_cases sequence : ∃ items, value.content = .seq items
      · obtain ⟨items, sequence⟩ := sequence
        by_cases single : variants.length = 1
        · obtain ⟨only, rfl⟩ := List.length_eq_one_iff.mp single
          rw [check_seq_one sequence, check_seq_one sequence]
          refine composes.flatMap (List.forall₂_same.mpr fun element _ => ?_)
          exact ofVariant only (by simp) _ element.1
        · rw [check_seq_several single sequence, check_seq_several single sequence]
          refine composes.flatMap (List.forall₂_same.mpr fun element _ => ?_)
          refine comparable.element ?_
          rw [List.forall₂_map_left_iff, List.forall₂_map_right_iff, List.forall₂_same]
          intro variant member
          exact ofVariant variant member _ element.1
      · rw [check_seq_of_not_seq (not_exists.mp sequence),
          check_seq_of_not_seq (not_exists.mp sequence)]
        exact composes.refl _
  | scalar leaf =>
      rw [check_scalar, check_scalar]
      exact composes.refl _
  | included name target ofTarget =>
      rw [check_included, check_included]
      exact ofTarget path value

theorem fewest_infix_flatten (outcomes : List (List Violation)) :
    fewest outcomes <:+: outcomes.flatten := by
  by_cases present : outcomes = []
  · rw [present]
    exact List.infix_refl []
  · obtain ⟨before, after, split⟩ := List.append_of_mem (fewest_mem present)
    refine ⟨before.flatten, after.flatten, ?_⟩
    conv => rhs; rw [split]
    simp

theorem abridges_composes : Composes (List.Forall₂ Violation.Abridges) where
  refl _ := List.forall₂_same.mpr fun violation _ => .refl violation
  append fronts rests := List.rel_append fronts rests

theorem closest_comparable (config : Config) :
    Comparable { config with elementReport := .closest } { config with elementReport := .all }
      (List.Forall₂ Violation.Abridges) where
  toComposes := abridges_composes
  element each := by
    refine elementViolations_paired each .nil (fun _ _ agreed => ?_) fun failed => ?_
    · rw [← List.length_eq_zero_iff, ← List.length_eq_zero_iff, agreed.length_eq]
    · have chosen := fewest_paired failed .nil fun _ _ agreed => agreed.length_eq
      exact .cons (.mk (fewest_infix_flatten _) chosen) .nil
  entry each := abridges_composes.patterns (by rfl) each

theorem sublist_composes :
    Composes fun outcome other => (outcome.map Violation.bare).Sublist (other.map .bare) where
  refl _ := List.Sublist.refl _
  append fronts rests := by
    rw [List.map_append, List.map_append]
    exact fronts.append rests

/-- The first pattern field that matches a key is one of all that do. -/
theorem applicable_first_cases (text : String) (fields : List (Field Node)) :
    applicable .first text fields = applicable .all text fields ∨
      ∃ field rest, applicable .first text fields = [field] ∧
        applicable .all text fields = field :: rest := by
  unfold applicable
  cases found : fields.find? (selects text) with
  | none =>
      refine .inl ?_
      have unmatched := List.find?_eq_none.mp found
      exact (List.filter_eq_nil_iff.mpr unmatched).symm
  | some field =>
      obtain ⟨selected, before, after, split, unmatched⟩ := List.find?_eq_some_iff_append.mp found
      refine .inr ⟨field, after.filter (selects text), rfl, ?_⟩
      have skipped : before.filter (selects text) = [] := by simpa using unmatched
      rw [split, List.filter_append, skipped, List.filter_cons_of_pos selected, List.nil_append]

theorem first_comparable (config : Config) :
    Comparable { config with patternMatch := .first } { config with patternMatch := .all }
      fun outcome other => (outcome.map Violation.bare).Sublist (other.map .bare) where
  toComposes := sublist_composes
  element {path variants matching item outcomes others} each := by
    by_cases passes : outcomes = [] ∨ Passes outcomes matching
    · rw [elementViolations_eq_nil_iff.mpr passes]
      exact List.nil_sublist _
    · -- A shape that fails with fewer violations fails with more, so the element fails too.
      have alsoFails : ¬ (others = [] ∨ Passes others matching) := by
        refine mt (passes_of_paired each fun outcome other agreed clean => ?_) passes
        rw [clean] at agreed
        simpa using agreed
      rw [elementViolations_of_failing passes, elementViolations_of_failing alsoFails]
      exact List.Sublist.refl _
  entry {path fields allowEmpty entry} each := by
    rcases applicable_first_cases entry.1.keyText fields with same | ⟨field, rest, first, all⟩
    · simp only [patternViolations, same]
      refine sublist_composes.unclaimed ?_
      rw [List.forall₂_map_left_iff, List.forall₂_map_right_iff, List.forall₂_same]
      intro field applies
      exact each field (mem_of_mem_applicable applies)
    · have applies : field ∈ applicable .all entry.1.keyText fields := by simp [all]
      have member := mem_of_mem_applicable applies
      simp only [patternViolations, first, all, unclaimedViolations, List.map_cons, List.map_nil,
        List.isEmpty_cons, Bool.false_and, Bool.false_eq_true, if_false, List.flatten_cons,
        List.flatten_nil, List.append_nil, List.map_append]
      exact (each field member).trans (List.sublist_append_left _ _)

end Validation

/-- Which failed shapes are told about changes no violation, and of the causes of each the
shorter report tells a contiguous block, at every depth. -/
theorem Schema.validate_closest_abridges (schema : Schema) (config : Config) (document : Value) :
    let closest := (schema.withConfig { config with elementReport := .closest }).validate document
    let full := (schema.withConfig { config with elementReport := .all }).validate document
    closest.map Violation.bare = full.map Violation.bare ∧
      List.Forall₂ (fun short long =>
        short.causes.map Violation.bare <:+: long.causes.map Violation.bare) closest full ∧
      List.Forall₂ Violation.Abridges closest full := by
  intro closest full
  have abridged : List.Forall₂ Violation.Abridges closest full :=
    (Validation.closest_comparable config).check [] schema.root document
  refine ⟨Violation.map_bare_eq_of_abridges abridged, ?_, abridged⟩
  exact abridged.imp fun _ _ abridges => abridges.causes_infix

/-- An element that fails two shapes, told about in part and in full. -/
theorem Schema.validate_closest_abridges_nested :
    let numbers : Node := .seq [.scalar (.ofKind .int), .scalar (.ofKind .float)] .any
    let schema := Schema.ofNode (.seq [.scalar (.ofKind .int), numbers] .any)
    let document : Value := .seq [.seq [.string "wide"]]
    ∃ short long,
      (schema.withConfig { Config.standard with elementReport := .closest }).validate document =
        [short] ∧
      (schema.withConfig { Config.standard with elementReport := .all }).validate document =
        [long] ∧
      short.causes.length = 1 ∧ long.causes.length = 2 ∧ short.Abridges long := by
  intro numbers schema document
  refine ⟨_, _, rfl, rfl, rfl, rfl, ?_⟩
  obtain ⟨_, _, abridged⟩ := validate_closest_abridges schema .standard document
  exact (List.forall₂_cons.mp abridged).1

/-- With every matching pattern field applied, the violations found with the first one only
are all there in their order. -/
theorem Schema.validate_first_sublist (schema : Schema) (config : Config) (document : Value) :
    let first := (schema.withConfig { config with patternMatch := .first }).validate document
    let all := (schema.withConfig { config with patternMatch := .all }).validate document
    (first.map Violation.bare).Sublist (all.map Violation.bare) ∧ (all = [] → first = []) := by
  intro first all
  have sublist : (first.map Violation.bare).Sublist (all.map Violation.bare) :=
    (Validation.first_comparable config).check [] schema.root document
  refine ⟨sublist, fun clean => ?_⟩
  rw [clean] at sublist
  simpa using sublist

/-- Two keys that two pattern fields match. -/
theorem Schema.validate_first_sublist_second :
    let anything : Pattern := ⟨"", .empty⟩
    let number : Field Node := ⟨.pattern anything, false, .scalar (.ofKind .int)⟩
    let flag : Field Node := ⟨.pattern anything, false, .scalar (.ofKind .bool)⟩
    let schema := Schema.ofNode (.map [number, flag] false)
    let document : Value := .map [(.string "size", .string "wide"), (.string "depth", .int 1)]
    let first := (schema.withConfig { Config.standard with patternMatch := .first }).validate document
    let all := (schema.withConfig { Config.standard with patternMatch := .all }).validate document
    first.length = 1 ∧ all.length = 3 ∧
      (first.map Violation.bare).Sublist (all.map Violation.bare) := by
  intro anything number flag schema document first all
  exact ⟨rfl, rfl, (validate_first_sublist schema .standard document).1⟩

end DocShape
