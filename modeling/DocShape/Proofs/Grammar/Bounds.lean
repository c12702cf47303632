import DocShape.Proofs.Grammar.Range
import DocShape.Proofs.Rounding
import Mathlib.Algebra.Order.Field.Basic
import Mathlib.Algebra.Order.Field.Rat

namespace DocShape

/-! The bounds that a range definition writes, under keys with or without tags, and what the
range that is read from them contains.

A range definition is accepted if its bounds leave a point between them on the number line.
Which numbers there are around that point, and which of them are measures of anything, is
not looked at.
-/

namespace Bound

/-- A value is on the wrong side of a bound that is declared under this key. -/
def Broken {α : Type} (less : α → α → Prop) (key : String) (bound value : α) : Prop :=
  match key with
  | "min" => less value bound
  | "min-ex" => ¬ less bound value
  | "max" => less bound value
  | "max-ex" => ¬ less value bound
  | _ => False

theorem broken_congr {α : Type} {less other : α → α → Prop} {key : String} {bound value : α}
    (below : less value bound ↔ other value bound) (above : less bound value ↔ other bound value) :
    Broken less key bound value ↔ Broken other key bound value := by
  unfold Broken
  split <;> simp only [below, above]

/-- A range definition declares this bound under this key. -/
def Written (bounds : Entries) (key : String) (bound : Binary64) : Prop :=
  ∃ entry ∈ bounds, Heading.keywordOf entry.1 = key ∧ entry.2.number? = some bound

def lowKey (bound : Bound) : String := if bound.exclusive then "min-ex" else "min"

def highKey (bound : Bound) : String := if bound.exclusive then "max-ex" else "max"

theorem lowKey_inj {left right : Bound} :
    left.lowKey = right.lowKey ∧ left.value = right.value ↔ left = right := by
  obtain ⟨value, exclusive⟩ := left
  obtain ⟨other, isOpen⟩ := right
  cases exclusive <;> cases isOpen <;> simp [lowKey]

theorem highKey_inj {left right : Bound} :
    left.highKey = right.highKey ∧ left.value = right.value ↔ left = right := by
  obtain ⟨value, exclusive⟩ := left
  obtain ⟨other, isOpen⟩ := right
  cases exclusive <;> cases isOpen <;> simp [highKey]

theorem lowKey_ne_highKey (low high : Bound) : low.lowKey ≠ high.highKey := by
  unfold lowKey highKey
  split <;> split <;> decide

/-- A bound that can be broken stands at one of the two ends. -/
theorem end_of_broken {α : Type} {less : α → α → Prop} {key : String} {bound value : α}
    (broken : Broken less key bound value) (number : Binary64) :
    (∃ low : Bound, low.value = number ∧ low.lowKey = key) ∨
      ∃ high : Bound, high.value = number ∧ high.highKey = key := by
  unfold Broken at broken
  split at broken
  · exact .inl ⟨⟨number, false⟩, rfl, rfl⟩
  · exact .inl ⟨⟨number, true⟩, rfl, rfl⟩
  · exact .inr ⟨⟨number, false⟩, rfl, rfl⟩
  · exact .inr ⟨⟨number, true⟩, rfl, rfl⟩
  · cases broken

def Less (left right : Binary64) : Prop := left.lt right = true

/-- A number is on the right side of all bounds. -/
def Admit (bounds : Entries) (value : Binary64) : Prop :=
  ∀ key bound, Written bounds key bound → ¬ Broken Less key bound value

/-- A point of the number line, which need not be a number of the format, is on the right side
of all bounds. -/
def AdmitPoint (bounds : Entries) (point : ℚ) : Prop :=
  ∀ key bound place, Written bounds key bound → bound.position? = some place →
    ¬ Broken (· < ·) key (place : ℚ) point

/-- A point is on the right side of an end, if there is one. -/
def Keep (key : Bound → String) (found : Option Bound) (point : ℚ) : Prop :=
  ∀ bound place, found = some bound → bound.value.position? = some place →
    ¬ Broken (· < ·) (key bound) (place : ℚ) point

theorem keep_none {key : Bound → String} {point : ℚ} : Keep key none point := nofun

theorem keep_some_iff {key : Bound → String} {bound : Bound} {point : ℚ} {place : Int}
    (stands : bound.value.position? = some place) :
    Keep key (some bound) point ↔ ¬ Broken (· < ·) (key bound) (place : ℚ) point := by
  constructor
  · intro keeps
    exact keeps bound place rfl stands
  · intro unbroken _ _ same again
    cases same
    cases stands.symm.trans again
    exact unbroken

section Point

variable {bound : Bound} {place point : ℚ}

theorem not_broken_low_of_lt (past : place < point) : ¬ Broken (· < ·) bound.lowKey place point := by
  unfold lowKey
  split
  · exact not_not.mpr past
  · exact not_lt.mpr past.le

theorem not_broken_high_of_lt (short : point < place) :
    ¬ Broken (· < ·) bound.highKey place point := by
  unfold highKey
  split
  · exact not_not.mpr short
  · exact not_lt.mpr short.le

theorem not_broken_of_inclusive (inclusive : bound.exclusive = false) :
    ¬ Broken (· < ·) bound.lowKey place place ∧ ¬ Broken (· < ·) bound.highKey place place := by
  rw [lowKey, highKey, inclusive]
  exact ⟨lt_irrefl place, lt_irrefl place⟩

end Point

section Ends

variable {bound : Bound} {value : Binary64}

theorem below_eq_false_iff (placed : bound.value ≠ .nan) (valuePlaced : value ≠ .nan) :
    bound.below value = false ↔ Broken Less bound.lowKey bound.value value := by
  unfold below lowKey
  cases bound.exclusive with
  | true => exact (Bool.not_eq_true _).symm.to_iff
  | false => exact Binary64.le_eq_false_iff placed valuePlaced

theorem above_eq_false_iff (placed : bound.value ≠ .nan) (valuePlaced : value ≠ .nan) :
    bound.above value = false ↔ Broken Less bound.highKey bound.value value := by
  unfold above highKey
  cases bound.exclusive with
  | true => exact (Bool.not_eq_true _).symm.to_iff
  | false => exact Binary64.le_eq_false_iff valuePlaced placed

end Ends

end Bound

namespace Range

/-- A number is outside of what two optional bounds admit. -/
def Excludes (bounds : Option Bound × Option Bound) (value : Binary64) : Prop :=
  (∃ low, bounds.1 = some low ∧ low.below value = false) ∨
    ∃ high, bounds.2 = some high ∧ high.above value = false

theorem contains_eq_false_iff {range : Range} {value : Binary64} :
    range.contains value = false ↔ Excludes (range.min, range.max) value := by
  unfold contains Excludes
  cases range.min <;> cases range.max <;> simp [Bool.and_eq_false_iff, -Bool.and_eq_false_imp]

theorem end_ne_nan (range : Range) {bound : Bound}
    (isEnd : range.min = some bound ∨ range.max = some bound) : bound.value ≠ .nan := by
  have finite := (fault?_eq_none_iff.mp range.sound).finite bound (by simpa using isEnd)
  intro isNan
  rw [isNan] at finite
  cases finite

end Range

namespace Heading

variable {path : String} {entries : Entries}

/-- What an entry adds to the ends found before it. -/
def Adds (entry : Value × Value) (bounds found : Option Bound × Option Bound) : Prop :=
  (∀ low, found.1 = some low ↔ bounds.1 = some low ∨
    keywordOf entry.1 = low.lowKey ∧ entry.2.number? = some low.value) ∧
  ∀ high, found.2 = some high ↔ bounds.2 = some high ∨
    keywordOf entry.1 = high.highKey ∧ entry.2.number? = some high.value

theorem adds_low {entry : Value × Value} (low : Bound) (high : Option Bound)
    (key : keywordOf entry.1 = low.lowKey) (stored : entry.2.number? = some low.value) :
    Adds entry (none, high) (some low, high) := by
  constructor
  · intro other
    rw [key, stored]
    simp only [Option.some.injEq, reduceCtorEq, false_or, Bound.lowKey_inj]
  · intro other
    rw [key]
    simp only [Bound.lowKey_ne_highKey, false_and, or_false]

theorem adds_high {entry : Value × Value} (low : Option Bound) (high : Bound)
    (key : keywordOf entry.1 = high.highKey) (stored : entry.2.number? = some high.value) :
    Adds entry (low, none) (low, some high) := by
  constructor
  · intro other
    rw [key]
    simp only [(Bound.lowKey_ne_highKey other high).symm, false_and, or_false]
  · intro other
    rw [key, stored]
    simp only [Option.some.injEq, reduceCtorEq, false_or, Bound.highKey_inj]

/-- An entry is a bound for an end that has none yet, and becomes that end. -/
theorem addBound_eq_ok_iff_ends {bounds found : Option Bound × Option Bound}
    {entry : Value × Value} :
    addBound path bounds entry = .ok found ↔
      (∃ low : Bound, keywordOf entry.1 = low.lowKey ∧ entry.2.number? = some low.value ∧
        bounds.1 = none ∧ (some low, bounds.2) = found) ∨
      ∃ high : Bound, keywordOf entry.1 = high.highKey ∧ entry.2.number? = some high.value ∧
        bounds.2 = none ∧ (bounds.1, some high) = found := by
  obtain ⟨low, high⟩ := bounds
  constructor
  · intro added
    unfold addBound at added
    cases stored : entry.2.number? with
    | none =>
        rw [stored] at added
        cases added
    | some value =>
        simp only [stored] at added
        split at added
        · rename_i key
          cases low <;> cases added
          exact .inl ⟨⟨value, false⟩, key, rfl, rfl, rfl⟩
        · rename_i key
          cases low <;> cases added
          exact .inl ⟨⟨value, true⟩, key, rfl, rfl, rfl⟩
        · rename_i key
          cases high <;> cases added
          exact .inr ⟨⟨value, false⟩, key, rfl, rfl, rfl⟩
        · rename_i key
          cases high <;> cases added
          exact .inr ⟨⟨value, true⟩, key, rfl, rfl, rfl⟩
        · cases added
  · intro isEnd
    obtain ⟨bound, key, stored, free, rfl⟩ | ⟨bound, key, stored, free, rfl⟩ := isEnd
    · obtain ⟨value, exclusive⟩ := bound
      cases exclusive <;> simp_all [addBound, Bound.lowKey]
    · obtain ⟨value, exclusive⟩ := bound
      cases exclusive <;> simp_all [addBound, Bound.highKey]

theorem adds_of_addBound {bounds found : Option Bound × Option Bound} {entry : Value × Value}
    (added : addBound path bounds entry = .ok found) : Adds entry bounds found := by
  obtain ⟨low, high⟩ := bounds
  obtain ⟨bound, key, stored, free, rfl⟩ | ⟨bound, key, stored, free, rfl⟩ :=
    addBound_eq_ok_iff_ends.mp added
  · cases free
    exact adds_low bound high key stored
  · cases free
    exact adds_high low bound key stored

/-- Two entries can be added in either order. -/
theorem addBound_swap {before between after : Option Bound × Option Bound}
    {first second : Value × Value} (ofFirst : addBound path before first = .ok between)
    (ofSecond : addBound path between second = .ok after) :
    ∃ other, addBound path before second = .ok other ∧ addBound path other first = .ok after := by
  obtain ⟨low, high⟩ := before
  obtain ⟨bound, key, stored, free, rfl⟩ | ⟨bound, key, stored, free, rfl⟩ :=
    addBound_eq_ok_iff_ends.mp ofFirst
  · obtain ⟨_, _, _, taken, _⟩ | ⟨other, otherKey, otherStored, otherFree, rfl⟩ :=
      addBound_eq_ok_iff_ends.mp ofSecond
    · cases taken
    · cases free
      exact ⟨(none, some other),
        addBound_eq_ok_iff_ends.mpr (.inr ⟨other, otherKey, otherStored, otherFree, rfl⟩),
        addBound_eq_ok_iff_ends.mpr (.inl ⟨bound, key, stored, rfl, rfl⟩)⟩
  · obtain ⟨other, otherKey, otherStored, otherFree, rfl⟩ | ⟨_, _, _, taken, _⟩ :=
      addBound_eq_ok_iff_ends.mp ofSecond
    · cases free
      exact ⟨(some other, none),
        addBound_eq_ok_iff_ends.mpr (.inl ⟨other, otherKey, otherStored, otherFree, rfl⟩),
        addBound_eq_ok_iff_ends.mpr (.inr ⟨bound, key, stored, rfl, rfl⟩)⟩
    · cases taken

theorem foldlM_addBound_of_perm {others : Entries} {before after : Option Bound × Option Bound}
    (order : entries.Perm others) (added : entries.foldlM (addBound path) before = .ok after) :
    others.foldlM (addBound path) before = .ok after := by
  induction order generalizing before with
  | nil => exact added
  | cons entry _ ofRest =>
      rw [List.foldlM_cons] at added ⊢
      obtain ⟨between, ofFirst, ofOthers⟩ := bind_eq_ok.mp added
      exact bind_eq_ok.mpr ⟨between, ofFirst, ofRest ofOthers⟩
  | swap second first rest =>
      simp only [List.foldlM_cons] at added ⊢
      obtain ⟨between, ofFirst, remaining⟩ := bind_eq_ok.mp added
      obtain ⟨both, ofSecond, ofRest⟩ := bind_eq_ok.mp remaining
      obtain ⟨other, otherFirst, otherSecond⟩ := addBound_swap ofFirst ofSecond
      exact bind_eq_ok.mpr ⟨other, otherFirst, bind_eq_ok.mpr ⟨both, otherSecond, ofRest⟩⟩
  | trans _ _ ofFirst ofSecond => exact ofSecond (ofFirst added)

/-- The order of its bounds makes no difference to a range. -/
theorem rangeOf_of_perm {others : Entries} {range : Range} (order : entries.Perm others)
    (found : rangeOf path (.map entries) = .ok range) : rangeOf path (.map others) = .ok range := by
  obtain ⟨ends, added, made⟩ := bind_eq_ok.mp found
  exact bind_eq_ok.mpr ⟨ends, foldlM_addBound_of_perm order added, made⟩

theorem written_cons {entry : Value × Value} {key : String} {bound : Binary64} :
    Bound.Written (entry :: entries) key bound ↔
      keywordOf entry.1 = key ∧ entry.2.number? = some bound ∨
        Bound.Written entries key bound := by
  simp only [Bound.Written, List.mem_cons, exists_eq_or_imp]

theorem ends_of_foldlM_addBound {bounds found : Option Bound × Option Bound}
    (added : entries.foldlM (addBound path) bounds = .ok found) :
    (∀ low, found.1 = some low ↔
      bounds.1 = some low ∨ Bound.Written entries low.lowKey low.value) ∧
    ∀ high, found.2 = some high ↔
      bounds.2 = some high ∨ Bound.Written entries high.highKey high.value := by
  induction entries generalizing bounds with
  | nil =>
      cases added
      simp [Bound.Written]
  | cons entry rest inRest =>
      rw [List.foldlM_cons] at added
      obtain ⟨between, ofFirst, ofRest⟩ := bind_eq_ok.mp added
      obtain ⟨firstLow, firstHigh⟩ := adds_of_addBound ofFirst
      obtain ⟨restLow, restHigh⟩ := inRest ofRest
      constructor
      · intro low
        rw [restLow, firstLow, written_cons, or_assoc]
      · intro high
        rw [restHigh, firstHigh, written_cons, or_assoc]

/-- The ends of a range are the bounds that its definition writes. -/
theorem ends_of_rangeOf {range : Range} (read : rangeOf path (.map entries) = .ok range) :
    (∀ low, range.min = some low ↔ Bound.Written entries low.lowKey low.value) ∧
      ∀ high, range.max = some high ↔ Bound.Written entries high.highKey high.value := by
  obtain ⟨⟨low, high⟩, added, made⟩ := bind_eq_ok.mp read
  have bounds : range.min = low ∧ range.max = high := by
    dsimp only at made
    split at made
    · rename_i found fits
      cases made
      exact Range.of?_bounds fits
    · cases made
  have ends := ends_of_foldlM_addBound added
  simpa [bounds] using ends

/-- A range contains the numbers that break none of the bounds its definition writes. -/
theorem contains_iff_admit {range : Range} {value : Binary64} (placed : value ≠ .nan)
    (read : rangeOf path (.map entries) = .ok range) :
    range.contains value = true ↔ Bound.Admit entries value := by
  obtain ⟨lowEnd, highEnd⟩ := ends_of_rangeOf read
  rw [← Bool.not_eq_false, Range.contains_eq_false_iff]
  constructor
  · intro contained key bound written broken
    apply contained
    obtain ⟨low, rfl, rfl⟩ | ⟨high, rfl, rfl⟩ := Bound.end_of_broken broken bound
    · have isLow := (lowEnd low).mpr written
      exact .inl ⟨low, isLow,
        (Bound.below_eq_false_iff (range.end_ne_nan (.inl isLow)) placed).mpr broken⟩
    · have isHigh := (highEnd high).mpr written
      exact .inr ⟨high, isHigh,
        (Bound.above_eq_false_iff (range.end_ne_nan (.inr isHigh)) placed).mpr broken⟩
  · intro admitted excluded
    obtain ⟨low, isLow, below⟩ | ⟨high, isHigh, above⟩ := excluded
    · exact admitted _ _ ((lowEnd low).mp isLow)
        ((Bound.below_eq_false_iff (range.end_ne_nan (.inl isLow)) placed).mp below)
    · exact admitted _ _ ((highEnd high).mp isHigh)
        ((Bound.above_eq_false_iff (range.end_ne_nan (.inr isHigh)) placed).mp above)

end Heading

namespace Range

/-- The ends of a range leave a point between them, or meet at one that belongs to it. -/
theorem exists_point (range : Range) :
    ∃ point : ℚ, Bound.Keep Bound.lowKey range.min point ∧
      Bound.Keep Bound.highKey range.max point := by
  have placed (bound : Bound) (isEnd : range.min = some bound ∨ range.max = some bound) :
      ∃ place, bound.value.position? = some place :=
    Binary64.exists_position (range.end_ne_nan isEnd)
  have fits := fault?_eq_none_iff.mp range.sound
  cases isMin : range.min with
  | none =>
      cases isMax : range.max with
      | none => exact absurd fits.present (by simp [isMin, isMax])
      | some high =>
          obtain ⟨top, atTop⟩ := placed high (.inr isMax)
          obtain ⟨point, short⟩ := exists_lt (top : ℚ)
          exact ⟨point, Bound.keep_none,
            (Bound.keep_some_iff atTop).mpr (Bound.not_broken_high_of_lt short)⟩
  | some low =>
      obtain ⟨bottom, atBottom⟩ := placed low (.inl isMin)
      cases isMax : range.max with
      | none =>
          obtain ⟨point, past⟩ := exists_gt (bottom : ℚ)
          exact ⟨point, (Bound.keep_some_iff atBottom).mpr (Bound.not_broken_low_of_lt past),
            Bound.keep_none⟩
      | some high =>
          obtain ⟨top, atTop⟩ := placed high (.inr isMax)
          obtain below | ⟨same, lowBelongs, highBelongs⟩ := fits.ordered low high isMin isMax
          · have apart : (bottom : ℚ) < top :=
              Int.cast_lt.mpr ((Binary64.lt_iff_of_position? atBottom atTop).mp below)
            obtain ⟨point, past, short⟩ := exists_between apart
            exact ⟨point, (Bound.keep_some_iff atBottom).mpr (Bound.not_broken_low_of_lt past),
              (Bound.keep_some_iff atTop).mpr (Bound.not_broken_high_of_lt short)⟩
          · obtain rfl := (Binary64.same_iff_of_position? atBottom atTop).mp same
            exact ⟨bottom,
              (Bound.keep_some_iff atBottom).mpr (Bound.not_broken_of_inclusive lowBelongs).1,
              (Bound.keep_some_iff atTop).mpr (Bound.not_broken_of_inclusive highBelongs).2⟩

end Range

namespace Heading

variable {path : String} {entries : Entries}

theorem admitPoint_of_rangeOf {range : Range} (read : rangeOf path (.map entries) = .ok range) :
    ∃ point, Bound.AdmitPoint entries point := by
  obtain ⟨lowEnd, highEnd⟩ := ends_of_rangeOf read
  obtain ⟨point, pastLow, shortOfHigh⟩ := range.exists_point
  refine ⟨point, fun key bound place written stands broken => ?_⟩
  obtain ⟨low, rfl, rfl⟩ | ⟨high, rfl, rfl⟩ := Bound.end_of_broken broken bound
  · exact (Bound.keep_some_iff stands).mp ((lowEnd low).mpr written ▸ pastLow) broken
  · exact (Bound.keep_some_iff stands).mp ((highEnd high).mpr written ▸ shortOfHigh) broken

theorem invalid_of_addBound {bounds : Option Bound × Option Bound} {entry : Value × Value}
    {error : SchemaError} (refused : addBound path bounds entry = .error error) :
    ∃ fault, error = .invalidRange path fault := by
  unfold addBound at refused
  obtain ⟨low, high⟩ := bounds
  cases stored : entry.2.number? with
  | none =>
      rw [stored] at refused
      cases refused
      exact ⟨_, rfl⟩
  | some value =>
      simp only [stored] at refused
      split at refused
      all_goals
        cases low <;> cases high <;> cases refused <;> exact ⟨_, rfl⟩

theorem invalid_of_foldlM_addBound {bounds : Option Bound × Option Bound} {error : SchemaError}
    (refused : entries.foldlM (addBound path) bounds = .error error) :
    ∃ fault, error = .invalidRange path fault := by
  induction entries generalizing bounds with
  | nil => cases refused
  | cons entry rest inRest =>
      rw [List.foldlM_cons] at refused
      obtain ofFirst | ⟨between, _, ofRest⟩ := bind_eq_error.mp refused
      · exact invalid_of_addBound ofFirst
      · exact inRest ofRest

/-- A range definition makes a range, or is refused for being an invalid one. -/
theorem rangeOf_cases (path : String) (definition : Value) :
    (∃ range, rangeOf path definition = .ok range) ∨
      ∃ fault, rangeOf path definition = .error (.invalidRange path fault) := by
  cases read : rangeOf path definition with
  | ok range => exact .inl ⟨range, rfl⟩
  | error error =>
      refine .inr ?_
      cases definition with
      | map entries =>
          obtain ofBounds | ⟨found, _, ofRange⟩ := bind_eq_error.mp read
          · obtain ⟨fault, rfl⟩ := invalid_of_foldlM_addBound ofBounds
            exact ⟨fault, rfl⟩
          · dsimp only at ofRange
            split at ofRange
            · cases ofRange
            · cases ofRange
              exact ⟨_, rfl⟩
      | _ =>
          cases read
          exact ⟨_, rfl⟩

end Heading
end DocShape
