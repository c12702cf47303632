import DocShape.Proofs.Validation.Elements
import DocShape.Proofs.Validation.Walk

namespace DocShape

/-! Sequences with one shape.

There is nothing to choose, so a walk looks at the elements with the shape itself, on its own
report and path.  The general rule would try the shape apart and explain what fails by one
violation; its causes are what the walk reports here.
-/

namespace Validation

variable {config : Config} {path : DocPath} {matching : Matching} {item : Value}

/-- One outcome leaves nothing to choose, under either policy and for either matching. -/
theorem causes?_one (report : ElementReport) (outcome : List Violation) :
    causes? report matching [outcome] = if outcome = [] then none else some outcome := by
  cases outcome with
  | nil => rfl
  | cons first rest =>
      have failed : failures [first :: rest] = [first :: rest] := rfl
      have unchosen : explained report [first :: rest] = first :: rest := by
        cases report with
        | closest => rfl
        | all => exact List.append_nil _
      rw [causes?_eq_ite, failed, unchosen]
      cases matching <;> rfl

theorem elementViolations_one (variants : List Node) (outcome : List Violation) :
    elementViolations config path variants matching item [outcome] =
      if outcome = [] then []
      else
        [.mk path .elementMismatch (Node.variantsText variants matching) item.summary outcome] := by
  rw [elementViolations, causes?_one]
  by_cases passes : outcome = []
  · simp only [if_pos passes]
  · simp only [if_neg passes]

/-- The report on a sequence with one shape is made of what is told about its elements. -/
theorem check_seq_one_aboutElement {only : Node} {value : Value} {items : List Value}
    (isSeq : value.content = .seq items) :
    check config path (.seq [only] matching) value =
      items.zipIdx.flatMap fun element =>
        aboutElement path element.2 (check config path (.seq [only] matching) value) := by
  have told (element : Value × Nat) (member : element ∈ items.zipIdx) :
      check config (path ++ [.index element.2]) only element.1 =
        aboutElement path element.2 (check config path (.seq [only] matching) value) :=
    (aboutElement_check_one isSeq (List.mem_zipIdx_iff_getElem?.mp member)).symm
  calc check config path (.seq [only] matching) value
      _ = items.zipIdx.flatMap fun element =>
            check config (path ++ [.index element.2]) only element.1 := check_seq_one isSeq
      _ = _ := List.flatMap_congr told

end Validation

namespace Walk

open Validation

/-- Where a sequence has one shape, a walk reports something about an element exactly if the
general rule would, and then just what this rule would give as the causes of its one
violation. -/
theorem visit_seq_one_explains (config : Config) (only : Node) (matching : Matching)
    {value : Value} {items : List Value} (isSeq : value.content = .seq items) (walk : Walk) :
    let report := check config walk.path (.seq [only] matching) value
    let told (element : Value × Nat) := aboutElement walk.path element.2 report
    let general (element : Value × Nat) :=
      let below := walk.path ++ [.index element.2]
      elementViolations config below [only] matching element.1
        (checkVariants config below element.1 [only])
    (visit config (.seq [only] matching) value).run walk =
        ((), { walk with found := walk.found ++ items.zipIdx.flatMap told }) ∧
      (visitElements config [only] matching items).run walk =
        ((), { walk with found := walk.found ++ items.zipIdx.flatMap general }) ∧
      ∀ element ∈ items.zipIdx, (told element ≠ [] ↔ general element ≠ []) ∧
        (general element ≠ [] → general element =
          [.mk (walk.path ++ [.index element.2]) .elementMismatch
            (Node.variantsText [only] matching) element.1.summary (told element)]) := by
  intro report told general
  have ruled (element : Value × Nat) (member : element ∈ items.zipIdx) :
      general element =
        if told element = [] then []
        else
          [.mk (walk.path ++ [.index element.2]) .elementMismatch
            (Node.variantsText [only] matching) element.1.summary (told element)] := by
    have direct : told element = check config (walk.path ++ [.index element.2]) only element.1 :=
      aboutElement_check_one isSeq (List.mem_zipIdx_iff_getElem?.mp member)
    rw [direct]
    exact elementViolations_one [only] _
  refine ⟨?_, ?_, fun element member => ?_⟩
  · have shortcut : Faithful config (.seq [only] matching) := visit_faithful _
    rw [shortcut, ← check_seq_one_aboutElement isSeq]
  · have faithful : ∀ variant ∈ [only], Faithful config variant :=
      List.forall_mem_singleton.mpr (visit_faithful only)
    rw [visitElements_reports faithful]
    rfl
  · rw [ruled element member]
    by_cases passes : told element = []
    · simp [passes]
    · simp [passes]

/-- Two rows, of which the second lacks a field and has another one instead. -/
theorem visit_seq_one_explains_rows :
    let config := { Config.standard with elementReport := .all }
    let row : Node := .map [⟨.literal "id", true, .scalar (.ofKind .int)⟩] false
    let second : Value := .map [(.string "name", .string "a")]
    let items : List Value := [.map [(.string "id", .int 1)], second]
    let walk : Walk := ⟨[.key "rows"], [.mk [] .emptyValue "non-empty str" "empty str" []]⟩
    let report := check config walk.path (.seq [row] .all) (.seq items)
    let told (element : Value × Nat) := aboutElement walk.path element.2 report
    (items.zipIdx.map fun element => (told element).length) = [0, 2] ∧
      (visit config (.seq [row] .all) (.seq items)).run walk =
        ((), { walk with found := walk.found ++ items.zipIdx.flatMap told }) ∧
      elementViolations config [.key "rows", .index 1] [row] .all second
          (checkVariants config [.key "rows", .index 1] second [row]) =
        [.mk [.key "rows", .index 1] .elementMismatch "all of map" second.summary
          (told (second, 1))] := by
  intro config row second items walk report told
  have lengths : (items.zipIdx.map fun element => (told element).length) = [0, 2] := by
    decide +kernel
  have isSeq : (Value.seq items).content = .seq items := rfl
  obtain ⟨shortcut, _, each⟩ := visit_seq_one_explains config row .all isSeq walk
  obtain ⟨reported, explains⟩ := each (second, 1) (by simp [items])
  have fails : told (second, 1) ≠ [] := by
    intro passes
    simp [items, passes] at lengths
  exact ⟨lengths, shortcut, explains (reported.mp fails)⟩

end Walk
end DocShape
