import DocShape.Proofs.Opening
import DocShape.Proofs.Validation.Conformance
import DocShape.Proofs.Validation.Shapes

namespace DocShape.Validation

/-! Two reports compared part by part: on one document under two configurations, or on two
documents whose parts correspond.

A comparison that joined reports pass where their parts do passes from the fields of a map
and the elements of a sequence to the whole report.  The one step where a report is no joined
one is the choice among the shapes of an element.
-/

variable {agree : List Violation → List Violation → Prop}
variable {outcomes others : List (List Violation)}

/-- A comparison that every report passes against itself, and joined reports pass where their
parts do. -/
structure Composes (agree : List Violation → List Violation → Prop) : Prop where
  refl : ∀ outcome, agree outcome outcome
  append : ∀ {front rest otherFront otherRest}, agree front otherFront → agree rest otherRest →
    agree (front ++ rest) (otherFront ++ otherRest)

theorem elementViolations_of_failing {config : Config} {path : DocPath} {variants : List Node}
    {matching : Matching} {item : Value} (failing : ¬ (outcomes = [] ∨ Passes outcomes matching)) :
    elementViolations config path variants matching item outcomes =
      [.mk path .elementMismatch (Node.variantsText variants matching) item.summary
        (explained config.elementReport (failures outcomes))] := by
  have present : elementViolations config path variants matching item outcomes ≠ [] :=
    mt elementViolations_eq_nil_iff.mp failing
  unfold elementViolations at *
  cases found : causes? config.elementReport matching outcomes with
  | none => simp [found] at present
  | some causes => rw [causes?_eq_explained found]

theorem path_of_mem_elementViolations {config : Config} {path : DocPath} {variants : List Node}
    {matching : Matching} {item : Value} {violation : Violation}
    (member : violation ∈ elementViolations config path variants matching item outcomes) :
    violation.path = path := by
  unfold elementViolations at member
  split at member
  · cases member
  · rw [List.mem_singleton.mp member, Violation.path]

/-- Where no outcome turns from clean to failing, an element goes on to pass. -/
theorem passes_of_paired {matching : Matching} (each : List.Forall₂ agree outcomes others)
    (cleaned : ∀ outcome other, agree outcome other → other = [] → outcome = [])
    (passes : others = [] ∨ Passes others matching) :
    outcomes = [] ∨ Passes outcomes matching := by
  rcases passes with rfl | passes
  · exact .inl (List.forall₂_nil_right_iff.mp each)
  · refine .inr ?_
    cases matching with
    | any =>
        obtain ⟨other, member, clean⟩ := passes
        obtain ⟨outcome, inOutcomes, agreed⟩ := source_of_mem each member
        exact ⟨outcome, inOutcomes, cleaned outcome other agreed clean⟩
    | all =>
        intro outcome member
        obtain ⟨other, inOthers, agreed⟩ := result_of_mem each member
        exact cleaned outcome other agreed (passes other inOthers)

/-- Two elements with outcomes that agree in pairs agree, if what is told of their failed
shapes does. -/
theorem elementViolations_paired {first second : Config} {path : DocPath} {variants : List Node}
    {matching : Matching} {item other : Value} (each : List.Forall₂ agree outcomes others)
    (refl : agree [] [])
    (emptied : ∀ outcome other, agree outcome other → (outcome = [] ↔ other = []))
    (told : List.Forall₂ agree (failures outcomes) (failures others) →
      agree
        [.mk path .elementMismatch (Node.variantsText variants matching) item.summary
          (explained first.elementReport (failures outcomes))]
        [.mk path .elementMismatch (Node.variantsText variants matching) other.summary
          (explained second.elementReport (failures others))]) :
    agree (elementViolations first path variants matching item outcomes)
      (elementViolations second path variants matching other others) := by
  by_cases passes : others = [] ∨ Passes others matching
  · have alsoPasses := passes_of_paired each (fun _ _ agreed => (emptied _ _ agreed).mpr) passes
    rw [elementViolations_eq_nil_iff.mpr passes, elementViolations_eq_nil_iff.mpr alsoPasses]
    exact refl
  · have alsoFails : ¬ (outcomes = [] ∨ Passes outcomes matching) := fun alsoPasses =>
      passes (passes_of_paired (List.Forall₂.flip each)
        (fun _ _ agreed => (emptied _ _ agreed).mp) alsoPasses)
    rw [elementViolations_of_failing passes, elementViolations_of_failing alsoFails]
    exact told (failures_paired each emptied)

namespace Composes

variable {α β : Type} {first second : Config} {path : DocPath} {fields : List (Field Node)}

theorem flatMap (composes : Composes agree) {members : List α} {partners : List β}
    {found : α → List Violation} {again : β → List Violation}
    (each : List.Forall₂ (fun member partner => agree (found member) (again partner))
      members partners) :
    agree (members.flatMap found) (partners.flatMap again) := by
  induction each with
  | nil => exact composes.refl []
  | cons ofFirst _ ofRest =>
      rw [List.flatMap_cons, List.flatMap_cons]
      exact composes.append ofFirst ofRest

theorem flatten (composes : Composes agree) (each : List.Forall₂ agree outcomes others) :
    agree outcomes.flatten others.flatten := by
  have joined : agree (outcomes.flatMap id) (others.flatMap id) := composes.flatMap each
  rwa [List.flatMap_id, List.flatMap_id] at joined

/-- Literal fields agree where their names lead to values that do, or all to none. -/
theorem literals (composes : Composes agree) {entries partners : Entries}
    (each : ∀ field ∈ fields, ∀ name, field.key = .literal name →
      Option.Rel (fun stored other => agree (check first (path ++ [.key name]) field.node stored)
          (check second (path ++ [.key name]) field.node other))
        (literalValue? entries name) (literalValue? partners name)) :
    agree (fields.flatMap (literalViolations first path entries))
      (fields.flatMap (literalViolations second path partners)) := by
  refine composes.flatMap (List.forall₂_same.mpr fun field member => ?_)
  unfold literalViolations
  cases key : field.key with
  | pattern pattern => exact composes.refl []
  | literal name =>
      have looked := each field member name key
      simp only [FieldKey.literal?]
      generalize literalValue? entries name = stored at looked ⊢
      generalize literalValue? partners name = other at looked ⊢
      cases looked with
      | some agreed => exact agreed
      | none => exact composes.refl _

theorem unclaimed (composes : Composes agree) {allowEmpty : Bool} {text : String}
    (each : List.Forall₂ agree outcomes others) :
    agree (unclaimedViolations path fields allowEmpty text outcomes)
      (unclaimedViolations path fields allowEmpty text others) := by
  unfold unclaimedViolations
  cases each with
  | nil => exact composes.refl _
  | cons ofFirst ofRest => exact composes.flatten (.cons ofFirst ofRest)

/-- Entries of one key that only pattern fields decide about agree where their values do. -/
theorem patterns (composes : Composes agree) (policy : first.patternMatch = second.patternMatch)
    {allowEmpty : Bool} {key stored other : Value}
    (each : ∀ field ∈ fields, agree (check first (path ++ [.key key.keyText]) field.node stored)
      (check second (path ++ [.key key.keyText]) field.node other)) :
    agree (patternViolations first path fields allowEmpty (key, stored))
      (patternViolations second path fields allowEmpty (key, other)) := by
  unfold patternViolations
  rw [policy]
  refine composes.unclaimed ?_
  rw [List.forall₂_map_left_iff, List.forall₂_map_right_iff, List.forall₂_same]
  intro field applies
  exact each field (mem_of_mem_applicable applies)

/-- Mappings with the same keys in the same places agree where what stands under each key
does for every field. -/
theorem map_paired (composes : Composes agree) (policy : first.patternMatch = second.patternMatch)
    (related : Value → Value → Value → Prop) {allowEmpty : Bool} {value partner : Value}
    {entries partners : Entries} (isMap : value.content = .map entries)
    (partnerIsMap : partner.content = .map partners)
    (pairs : List.Forall₂
      (fun entry other => entry.1 = other.1 ∧ related entry.1 entry.2 other.2) entries partners)
    (each : ∀ field ∈ fields, ∀ key stored other, related key stored other →
      agree (check first (path ++ [.key key.keyText]) field.node stored)
        (check second (path ++ [.key key.keyText]) field.node other)) :
    agree (check first path (.map fields allowEmpty) value)
      (check second path (.map fields allowEmpty) partner) := by
  rw [check_map isMap, check_map partnerIsMap]
  refine composes.append ?_ (composes.flatMap ?_)
  · refine composes.literals fun field member name _ => ?_
    have looked : Option.Rel (fun stored other => ∃ key : Value, key.content = .string name ∧
        related key stored other) (literalValue? entries name) (literalValue? partners name) :=
      literalValue?_paired pairs name
    generalize literalValue? entries name = stored at looked ⊢
    generalize literalValue? partners name = other at looked ⊢
    cases looked with
    | none => exact .none
    | some inPair =>
        obtain ⟨key, spelled, inPair⟩ := inPair
        rw [← Value.keyText_of_spelled spelled]
        exact .some (each field member key _ _ inPair)
  · refine pairs.imp fun entry other paired => ?_
    obtain ⟨key, stored⟩ := entry
    obtain ⟨_, other⟩ := other
    obtain ⟨rfl, inPair⟩ := paired
    split
    · exact composes.refl []
    · exact composes.patterns policy fun field member => each field member key stored other inPair

end Composes
end DocShape.Validation
