import DocShape.Number.Style

namespace DocShape

/-! Ranges of numbers, which also bound the length of strings. -/

structure Bound where
  value : Binary64
  exclusive : Bool
deriving Repr, DecidableEq

namespace Bound

/-- Fewest digits that read back, without an exponent and without a point in a whole
number. -/
def numberStyle : NumberStyle where
  exponential _ := false
  wholeEnd := ""
  tie := .up
  nan := "NaN"
  infinity := "inf"

def valueText (value : Binary64) : String := numberStyle.text value

def below (bound : Bound) (value : Binary64) : Bool :=
  if bound.exclusive then bound.value.lt value else bound.value.le value

def above (bound : Bound) (value : Binary64) : Bool :=
  if bound.exclusive then value.lt bound.value else value.le bound.value

end Bound

inductive BoundsFault where
  | noBounds
  | notFinite (value : Binary64)
  | admitsNothing (min max : Binary64)
deriving Repr, DecidableEq

namespace BoundsFault

def message : BoundsFault → String
  | .noBounds => "range declares no bounds"
  | .notFinite value => "bound " ++ Bound.valueText value ++ " is not a finite number"
  | .admitsNothing min max =>
      "min " ++ Bound.valueText min ++ " and max " ++ Bound.valueText max ++ " admit no value"

end BoundsFault

namespace Range

/-- What is wrong with a pair of bounds.  Two equal ends must both belong to the range. -/
def fault? : Option Bound → Option Bound → Option BoundsFault
  | none, none => some .noBounds
  | min, max =>
      match (min.toList ++ max.toList).find? fun bound => !bound.value.isFinite with
      | some bound => some (.notFinite bound.value)
      | none =>
          match min, max with
          | some low, some high =>
              if high.value.lt low.value ||
                  low.value.same high.value && (low.exclusive || high.exclusive) then
                some (.admitsNothing low.value high.value)
              else none
          | _, _ => none

end Range

/-- A range with at least one bound, finite ends and room between them. -/
structure Range where
  min : Option Bound
  max : Option Bound
  sound : Range.fault? min max = none

namespace Range

def of? (min max : Option Bound) : Except BoundsFault Range :=
  match faulty : fault? min max with
  | some fault => .error fault
  | none => .ok ⟨min, max, faulty⟩

def contains (range : Range) (value : Binary64) : Bool :=
  range.min.all (·.below value) && range.max.all (·.above value)

def text (range : Range) : String :=
  let low := range.min.toList.map fun bound =>
    (if bound.exclusive then "> " else ">= ") ++ Bound.valueText bound.value
  let high := range.max.toList.map fun bound =>
    (if bound.exclusive then "< " else "<= ") ++ Bound.valueText bound.value
  " and ".intercalate (low ++ high)

theorem of?_bounds {min max : Option Bound} {range : Range} (made : of? min max = .ok range) :
    range.min = min ∧ range.max = max := by
  unfold of? at made
  split at made
  · contradiction
  · cases made
    exact ⟨rfl, rfl⟩

end Range
end DocShape
