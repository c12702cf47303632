import DocShape.Proofs.Validation.Outcomes
import Mathlib.Data.List.Forall2
import Mathlib.Data.List.Induction

namespace DocShape.Validation

/-! What is told about the shapes that an element of a sequence fails. -/

variable {outcomes others : List (List Violation)}

/-- The outcomes of the shapes that fail. -/
def failures (outcomes : List (List Violation)) : List (List Violation) :=
  outcomes.filter fun outcome => !outcome.isEmpty

/-- What a report picks from the failed shapes. -/
def explained : ElementReport → List (List Violation) → List Violation
  | .closest, failed => fewest failed
  | .all, failed => failed.flatten

theorem causes?_eq_ite (report : ElementReport) (matching : Matching)
    (outcomes : List (List Violation)) :
    causes? report matching outcomes =
      if (failures outcomes).isEmpty || matching == .any && outcomes.any List.isEmpty then none
      else some (explained report (failures outcomes)) := by
  cases report <;> rfl

theorem causes?_eq_explained {report : ElementReport} {matching : Matching}
    {causes : List Violation} (found : causes? report matching outcomes = some causes) :
    causes = explained report (failures outcomes) := by
  rw [causes?_eq_ite] at found
  split at found
  · cases found
  · exact (Option.some.inj found).symm

/-- The failures come in pairs when the outcomes do and only both of a pair can be empty. -/
theorem failures_paired {agree : List Violation → List Violation → Prop}
    (each : List.Forall₂ agree outcomes others)
    (emptied : ∀ outcome other, agree outcome other → (outcome = [] ↔ other = [])) :
    List.Forall₂ agree (failures outcomes) (failures others) := by
  refine List.rel_filter (fun outcome other agreed => ?_) each
  simp [emptied _ _ agreed]

/-- The chosen outcome is shorter than those in front of it and no longer than those behind. -/
theorem fewest_split (present : outcomes ≠ []) :
    ∃ before after, outcomes = before ++ fewest outcomes :: after ∧
      (∀ earlier ∈ before, (fewest outcomes).length < earlier.length) ∧
      ∀ later ∈ after, (fewest outcomes).length ≤ later.length := by
  -- On its way the choice holds the first of the shortest outcomes that it has passed.
  have folded (best : List Violation) (rest : List (List Violation)) :
      ∃ chosen before after,
        rest.foldl (fun best next => if next.length < best.length then next else best) best =
          chosen ∧
        best :: rest = before ++ chosen :: after ∧
        (∀ earlier ∈ before, chosen.length < earlier.length) ∧
        ∀ later ∈ after, chosen.length ≤ later.length := by
    induction rest using List.reverseRecOn with
    | nil => exact ⟨best, [], [], rfl, rfl, nofun, nofun⟩
    | append_singleton rest next inRest =>
        obtain ⟨chosen, before, after, found, split, inFront, behind⟩ := inRest
        rw [List.foldl_concat, found, ← List.cons_append, split]
        by_cases shorter : next.length < chosen.length
        · refine ⟨next, before ++ chosen :: after, [], if_pos shorter, rfl, ?_, nofun⟩
          intro earlier member
          rcases List.mem_append.mp member with passed | chosenOrAfter
          · exact Nat.lt_trans shorter (inFront earlier passed)
          · rcases List.mem_cons.mp chosenOrAfter with rfl | later
            · exact shorter
            · exact Nat.lt_of_lt_of_le shorter (behind earlier later)
        · refine ⟨chosen, before, after ++ [next], if_neg shorter, by simp, inFront, ?_⟩
          exact List.forall_mem_append.mpr
            ⟨behind, List.forall_mem_singleton.mpr (Nat.le_of_not_lt shorter)⟩
  cases outcomes with
  | nil => exact absurd rfl present
  | cons first rest =>
      obtain ⟨_, before, after, rfl, split, inFront, behind⟩ := folded first rest
      exact ⟨before, after, split, inFront, behind⟩

theorem fewest_mem (present : outcomes ≠ []) : fewest outcomes ∈ outcomes := by
  obtain ⟨before, after, split, _⟩ := fewest_split present
  have chosen : fewest outcomes ∈ before ++ fewest outcomes :: after := by simp
  rwa [← split] at chosen

/-- The causes of a failure are there, and each comes from one of the outcomes. -/
theorem causes?_eq_some {report : ElementReport} {matching : Matching} {causes : List Violation}
    (found : causes? report matching outcomes = some causes) :
    causes ≠ [] ∧ ∀ cause ∈ causes, ∃ outcome ∈ outcomes, cause ∈ outcome := by
  unfold causes? at found
  simp only at found
  split at found
  · cases found
  · rename_i failing
    have present : (outcomes.filter fun outcome => !outcome.isEmpty) ≠ [] := by
      intro none
      simp [none] at failing
    have chosen (outcome : List Violation)
        (member : outcome ∈ outcomes.filter fun outcome => !outcome.isEmpty) :
        outcome ≠ [] ∧ outcome ∈ outcomes := by
      simpa [and_comm] using member
    cases report with
    | closest =>
        obtain rfl := Option.some.inj found
        obtain ⟨nonempty, member⟩ := chosen _ (fewest_mem present)
        exact ⟨nonempty, fun cause inCauses => ⟨_, member, inCauses⟩⟩
    | all =>
        obtain rfl := Option.some.inj found
        constructor
        · obtain ⟨first, member⟩ := List.exists_mem_of_ne_nil _ present
          intro none
          exact (chosen first member).1 (List.flatten_eq_nil_iff.mp none first member)
        · intro cause inCauses
          obtain ⟨outcome, member, inOutcome⟩ := List.mem_flatten.mp inCauses
          exact ⟨outcome, (chosen outcome member).2, inOutcome⟩

/-- Outcomes that agree in pairs of one length have agreeing choices in one place. -/
theorem fewest_paired {agree : List Violation → List Violation → Prop}
    (each : List.Forall₂ agree outcomes others) (empty : agree [] [])
    (sized : ∀ outcome other, agree outcome other → outcome.length = other.length) :
    agree (fewest outcomes) (fewest others) := by
  have folded {rest remaining : List (List Violation)} (each : List.Forall₂ agree rest remaining)
      {best other : List Violation} (agreed : agree best other) :
      agree
        (rest.foldl (fun best next => if next.length < best.length then next else best) best)
        (remaining.foldl (fun best next => if next.length < best.length then next else best)
          other) := by
    induction each generalizing best other with
    | nil => exact agreed
    | cons next _ ofRest =>
        simp only [List.foldl_cons, sized _ _ next, sized _ _ agreed]
        split
        · exact ofRest next
        · exact ofRest agreed
  cases each with
  | nil => exact empty
  | cons first rest => exact folded rest first

theorem fewest_map (change : Violation → Violation) (outcomes : List (List Violation)) :
    fewest (outcomes.map (List.map change)) = (fewest outcomes).map change := by
  have paired : List.Forall₂ (fun changed outcome => changed = outcome.map change)
      (outcomes.map (List.map change)) outcomes :=
    List.forall₂_map_left_iff.mpr (List.forall₂_same.mpr fun _ _ => rfl)
  have agreed := fewest_paired paired rfl fun changed outcome same => by
    rw [same, List.length_map]
  exact agreed

end DocShape.Validation
