import DocShape.Proofs.Tree
import DocShape.Proofs.Validation.Shapes
import Mathlib.Data.List.Basic

namespace DocShape

/-! Validation does not depend on where a value stands: at another place the same is
reported, with the paths put below that place.
-/

namespace Violation

mutual

/-- The violation with its own path and those of its causes put below `base`. -/
def under (base : DocPath) : Violation → Violation
  | .mk path kind expected actual causes =>
      .mk (base ++ path) kind expected actual (underAll base causes)

def underAll (base : DocPath) : List Violation → List Violation
  | [] => []
  | cause :: rest => cause.under base :: underAll base rest

end

theorem underAll_eq_map (base : DocPath) (causes : List Violation) :
    underAll base causes = causes.map (under base) := by
  induction causes with
  | nil => rfl
  | cons cause rest inRest => simp only [underAll, List.map_cons, inRest]

theorem under_mk (base path : DocPath) (kind : ViolationKind) (expected actual : String)
    (causes : List Violation) :
    under base (.mk path kind expected actual causes) =
      .mk (base ++ path) kind expected actual (causes.map (under base)) := by
  simp only [under, underAll_eq_map]

end Violation

namespace Validation

variable {config : Config} {base path : DocPath}

theorem causes?_map (report : ElementReport) (matching : Matching)
    (change : Violation → Violation) (outcomes : List (List Violation)) :
    causes? report matching (outcomes.map (List.map change)) =
      (causes? report matching outcomes).map (List.map change) := by
  have failures : (outcomes.map (List.map change)).filter (fun outcome => !outcome.isEmpty) =
      (outcomes.filter fun outcome => !outcome.isEmpty).map (List.map change) := by
    simp only [List.filter_map, Function.comp_def, List.isEmpty_map]
  have empties : (outcomes.map (List.map change)).any List.isEmpty =
      outcomes.any List.isEmpty := by
    simp only [List.any_map, Function.comp_def, List.isEmpty_map]
  unfold causes?
  simp only [failures, empties, List.isEmpty_map]
  split
  · rfl
  · cases report with
    | closest => simp only [fewest_map, Option.map_some]
    | all => simp only [List.map_flatten, Option.map_some]

theorem elementViolations_under (variants : List Node) (matching : Matching) (item : Value)
    (outcomes : List (List Violation)) :
    elementViolations config (base ++ path) variants matching item
        (outcomes.map (List.map (.under base))) =
      (elementViolations config path variants matching item outcomes).map (.under base) := by
  unfold elementViolations
  rw [causes?_map]
  cases causes? config.elementReport matching outcomes with
  | none => rfl
  | some causes => simp [Violation.under_mk]

theorem unclaimedViolations_under (fields : List (Field Node)) (allowEmpty : Bool) (text : String)
    (outcomes : List (List Violation)) :
    unclaimedViolations (base ++ path) fields allowEmpty text
        (outcomes.map (List.map (.under base))) =
      (unclaimedViolations path fields allowEmpty text outcomes).map (.under base) := by
  unfold unclaimedViolations
  rw [List.isEmpty_map]
  split
  · simp [Violation.under_mk]
  · rw [List.map_flatten]

theorem scalarViolations_under (leaf : Scalar) (value : Value) :
    scalarViolations (base ++ path) leaf value =
      (scalarViolations path leaf value).map (.under base) := by
  have empty : emptiness (base ++ path) leaf value =
      (emptiness path leaf value).map (.under base) := by
    cases value with
    | string text =>
        simp only [emptiness]
        split <;> simp [Violation.under_mk]
    | _ => rfl
  have pattern : patternFault (base ++ path) leaf value =
      (patternFault path leaf value).map (.under base) := by
    cases value with
    | string text =>
        simp only [patternFault]
        split
        · split <;> simp [Violation.under_mk]
        · rfl
    | _ => rfl
  have allowed : allowedFault (base ++ path) leaf value =
      (allowedFault path leaf value).map (.under base) := by
    unfold allowedFault
    split <;> simp [Violation.under_mk]
  have range : rangeFault (base ++ path) leaf value =
      (rangeFault path leaf value).map (.under base) := by
    unfold rangeFault
    split
    · split <;> simp [Violation.under_mk]
    · rfl
  unfold scalarViolations
  split
  · rfl
  · split
    · simp only [empty, pattern, allowed, range, List.map_append]
    · simp [mismatch, Violation.under_mk]

/-- At another place the same is reported, with every path put below that place. -/
theorem check_append (base path : DocPath) (node : Node) (value : Value) :
    check config (base ++ path) node value =
      (check config path node value).map (.under base) := by
  induction node using Node.induction generalizing path value with
  | map fields allowEmpty ofField =>
      by_cases mapping : ∃ entries : Entries, value.content = .map entries
      · obtain ⟨entries, mapping⟩ := mapping
        have literal (field : Field Node) (member : field ∈ fields) :
            literalViolations config (base ++ path) entries field =
              (literalViolations config path entries field).map (.under base) := by
          unfold literalViolations
          split
          · rfl
          · split
            · rw [List.append_assoc, ofField field member]
            · split <;> simp [Violation.under_mk]
        have pattern (entry : Value × Value) :
            patternViolations config (base ++ path) fields allowEmpty entry =
              (patternViolations config path fields allowEmpty entry).map (.under base) := by
          unfold patternViolations
          rw [List.append_assoc, ← unclaimedViolations_under, List.map_map]
          refine congrArg _ (List.map_congr_left fun field member => ?_)
          exact ofField field (mem_of_mem_applicable member) _ _
        rw [check_map mapping, check_map mapping, List.map_append, List.map_flatMap,
          List.map_flatMap, List.flatMap_congr literal]
        refine congrArg _ (List.flatMap_congr fun entry _ => ?_)
        split
        · rfl
        · exact pattern entry
      · rw [check_map_of_not_map (not_exists.mp mapping),
          check_map_of_not_map (not_exists.mp mapping)]
        simp [mismatch, Violation.under_mk]
  | seq variants matching ofVariant =>
      by_cases sequence : ∃ items, value.content = .seq items
      · obtain ⟨items, sequence⟩ := sequence
        by_cases single : variants.length = 1
        · obtain ⟨only, rfl⟩ := List.length_eq_one_iff.mp single
          rw [check_seq_one sequence, check_seq_one sequence, List.map_flatMap]
          refine List.flatMap_congr fun element _ => ?_
          rw [List.append_assoc, ofVariant only (by simp)]
        · rw [check_seq_several single sequence, check_seq_several single sequence,
            List.map_flatMap]
          refine List.flatMap_congr fun element _ => ?_
          rw [List.append_assoc, ← elementViolations_under, List.map_map]
          refine congrArg _ (List.map_congr_left fun variant member => ?_)
          exact ofVariant variant member _ _
      · rw [check_seq_of_not_seq (not_exists.mp sequence),
          check_seq_of_not_seq (not_exists.mp sequence)]
        simp [mismatch, Violation.under_mk]
  | scalar leaf => rw [check_scalar, check_scalar, scalarViolations_under]
  | included name target ofTarget => rw [check_included, check_included, ofTarget]

theorem prefix_path_of_mem_check {node : Node} {value : Value} {violation : Violation}
    (member : violation ∈ check config path node value) : path <+: violation.path := by
  have moved := @check_append config path [] node value
  rw [List.append_nil] at moved
  rw [moved] at member
  obtain ⟨atTop, _, rfl⟩ := List.mem_map.mp member
  cases atTop
  exact List.prefix_append _ _

end Validation
end DocShape
