import DocShape.Proofs.Opening
import DocShape.Proofs.Untagged
import DocShape.Schema.Definition
import Mathlib.Tactic.MkIffOfInductiveProp

namespace DocShape

/-! Which range definitions are accepted: those whose bounds leave room between them. -/

namespace Binary64

variable {left right : Binary64}

theorem lt_or_same_iff_not_lt (leftFinite : left.isFinite = true)
    (rightFinite : right.isFinite = true) :
    (left.lt right = true ∨ left.same right = true) ↔ right.lt left = false := by
  cases left with
  | finite leftNegative leftUnits =>
      cases right with
      | finite rightNegative rightUnits =>
          simp only [lt, same, position?, decide_eq_true_eq, beq_iff_eq, decide_eq_false_iff_not]
          omega
      | _ => cases rightFinite
  | _ => cases leftFinite

theorem not_same_of_lt (below : left.lt right = true) : left.same right = false := by
  unfold lt at below
  unfold same
  cases here : left.position? with
  | none => rfl
  | some lower =>
      cases there : right.position? with
      | none => rfl
      | some upper =>
          simp only [here, there, decide_eq_true_eq] at below
          simp only [beq_eq_false_iff_ne, ne_eq]
          omega

end Binary64

namespace Range

/-- At least one bound is there, every bound is a finite number, and some number lies
between two of them. -/
@[mk_iff]
structure Fits (low high : Option Bound) : Prop where
  present : low ≠ none ∨ high ≠ none
  finite : ∀ bound ∈ low.toList ++ high.toList, bound.value.isFinite = true
  ordered : ∀ lower upper, low = some lower → high = some upper →
    lower.value.lt upper.value = true ∨
      lower.value.same upper.value = true ∧ lower.exclusive = false ∧ upper.exclusive = false

theorem fault?_eq_none_iff {low high : Option Bound} : fault? low high = none ↔ Fits low high := by
  rw [fits_iff]
  cases low with
  | none =>
      cases high with
      | none => simp [fault?]
      | some upper => cases finite : upper.value.isFinite <;> simp [fault?, finite]
  | some lower =>
      cases high with
      | none => cases finite : lower.value.isFinite <;> simp [fault?, finite]
      | some upper =>
          by_cases finite : lower.value.isFinite = true ∧ upper.value.isFinite = true
          · obtain ⟨lowFinite, highFinite⟩ := finite
            have total := Binary64.lt_or_same_iff_not_lt lowFinite highFinite
            have apart : lower.value.lt upper.value = true → lower.value.same upper.value = false :=
              Binary64.not_same_of_lt
            simp [fault?, lowFinite, highFinite]
            grind
          · simp [fault?]
            grind

theorem of?_eq_ok_iff {low high : Option Bound} :
    (∃ range, of? low high = .ok range) ↔ Fits low high := by
  rw [← fault?_eq_none_iff]
  unfold of?
  split
  · rename_i fault faulty
    simp [faulty]
  · rename_i sound
    simp [sound]

end Range

namespace Bound

/-- The bound that an entry declares under one of two keys, the second for a bound that does
not belong to the range itself. -/
def under? (inclusive exclusive : String) : Value × Value → Option Bound
  | (.string key, stored) =>
      if key = inclusive then stored.number?.map (⟨·, false⟩)
      else if key = exclusive then stored.number?.map (⟨·, true⟩)
      else none
  | _ => none

def lower? : Value × Value → Option Bound := under? "min" "min-ex"

def upper? : Value × Value → Option Bound := under? "max" "max-ex"

theorem upper?_eq_none_of_lower? {entry : Value × Value} {bound : Bound}
    (lower : lower? entry = some bound) : upper? entry = none := by
  obtain ⟨key, stored⟩ := entry
  cases key with
  | string name =>
      simp only [lower?, under?] at lower
      split at lower
      · rename_i inclusive
        subst inclusive
        rfl
      · split at lower
        · rename_i exclusive
          subst exclusive
          rfl
        · cases lower
  | _ => rfl

end Bound

/-- A range definition: every entry is a bound, at most one at each end, and together they
leave room for a number. -/
def IsRange (definition : Value) : Prop :=
  ∃ entries, definition = .map entries ∧
    (∀ entry ∈ entries, (Bound.lower? entry).isSome ∨ (Bound.upper? entry).isSome) ∧
    (entries.filterMap Bound.lower?).length ≤ 1 ∧ (entries.filterMap Bound.upper?).length ≤ 1 ∧
    Range.Fits (entries.filterMap Bound.lower?).head? (entries.filterMap Bound.upper?).head?

namespace Heading

variable {path : String}

/-- An entry adds a bound at an end that has none. -/
theorem addBound_eq_ok_iff {bounds found : Option Bound × Option Bound} {entry : Value × Value}
    (untagged : entry.1.untagged = true) :
    addBound path bounds entry = .ok found ↔
      (∃ bound, Bound.lower? entry = some bound ∧ Bound.upper? entry = none ∧
        bounds.1 = none ∧ (some bound, bounds.2) = found) ∨
      ∃ bound, Bound.upper? entry = some bound ∧ Bound.lower? entry = none ∧
        bounds.2 = none ∧ (bounds.1, some bound) = found := by
  obtain ⟨key, stored⟩ := entry
  obtain ⟨low, high⟩ := bounds
  cases number : stored.number? with
  | none =>
      have noLower : Bound.lower? (key, stored) = none := by
        cases key <;> simp [Bound.lower?, Bound.under?, number]
      have noUpper : Bound.upper? (key, stored) = none := by
        cases key <;> simp [Bound.upper?, Bound.under?, number]
      simp [addBound, number, noLower, noUpper]
  | some value =>
      cases key with
      | string name =>
          have text : keywordOf (.string name) = name := rfl
          simp only [addBound, number, text, Bound.lower?, Bound.upper?, Bound.under?]
          split <;> cases low <;> cases high <;> simp_all
      | tagged tag inner => simp [Value.untagged] at untagged
      | _ =>
          simp [addBound, number, keywordOf, Value.text?, Value.content, Bound.lower?, Bound.upper?,
            Bound.under?]

theorem foldlM_addBound_eq_ok_iff {bounds found : Option Bound × Option Bound} {entries : Entries}
    (untagged : ∀ entry ∈ entries, entry.1.untagged = true) :
    entries.foldlM (addBound path) bounds = .ok found ↔
      (∀ entry ∈ entries, (Bound.lower? entry).isSome ∨ (Bound.upper? entry).isSome) ∧
      (bounds.1.toList ++ entries.filterMap Bound.lower?).length ≤ 1 ∧
      (bounds.2.toList ++ entries.filterMap Bound.upper?).length ≤ 1 ∧
      ((bounds.1.toList ++ entries.filterMap Bound.lower?).head?,
        (bounds.2.toList ++ entries.filterMap Bound.upper?).head?) = found := by
  obtain ⟨low, high⟩ := bounds
  induction entries generalizing low high with
  | nil => cases low <;> cases high <;> simp [pure_eq_ok]
  | cons entry rest inRest =>
      obtain ⟨firstUntagged, restUntagged⟩ := List.forall_mem_cons.mp untagged
      simp only [List.foldlM_cons, bind_eq_ok, addBound_eq_ok_iff firstUntagged, Prod.exists,
        inRest restUntagged, List.forall_mem_cons, List.filterMap_cons]
      have alone (others : List Bound) : 1 + others.length ≤ 1 ↔ others = [] := by
        rw [← List.length_eq_zero_iff]
        omega
      generalize rest.filterMap Bound.lower? = lowers
      generalize rest.filterMap Bound.upper? = uppers
      cases lower : Bound.lower? entry with
      | none =>
          cases upper : Bound.upper? entry with
          | none => simp
          | some bound => cases high <;> simp [alone]
      | some bound =>
          have noUpper := Bound.upper?_eq_none_of_lower? lower
          cases low <;> simp [noUpper, alone]

theorem rangeOf_succeeds_iff (path : String) {definition : Value}
    (untagged : definition.untagged = true) :
    (∃ range, rangeOf path definition = .ok range) ↔ IsRange definition := by
  cases definition with
  | map entries =>
      have keys : ∀ entry ∈ entries, entry.1.untagged = true :=
        fun entry member => (Value.untagged_map_iff.mp untagged entry member).1
      simp only [rangeOf, bind_eq_ok, foldlM_addBound_eq_ok_iff keys, IsRange, Value.map.injEq,
        exists_eq_left', ← Range.of?_eq_ok_iff, Prod.exists, Option.toList_none, List.nil_append]
      constructor
      · rintro ⟨range, _, _, ⟨bounds, oneLower, oneUpper, ⟨⟩⟩, made⟩
        refine ⟨bounds, oneLower, oneUpper, ?_⟩
        split at made
        · rename_i found fits
          exact ⟨found, fits⟩
        · cases made
      · rintro ⟨bounds, oneLower, oneUpper, range, fits⟩
        exact ⟨range, _, _, ⟨bounds, oneLower, oneUpper, rfl⟩, by simp only [fits, pure_eq_ok]⟩
  | _ => simp [rangeOf, IsRange]

end Heading
end DocShape
