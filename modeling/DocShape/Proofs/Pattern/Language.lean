import DocShape.Pattern
import Mathlib.Data.Nat.Bitwise
import Mathlib.Logic.Function.Iterate

namespace DocShape.Pattern

/-! What patterns match, and that sets of positions compute it.

A match is a stretch of the text between two positions.  Matches only go forward, so
repeating one past the length of the text reaches no new position.
-/

/-- The character before a position, given the one before the text. -/
def charBefore? (before : Option Char) (text : List Char) : Nat → Option Char
  | 0 => before
  | position + 1 => text[position]?

/-- An assertion holds at a position of a text that stands alone. -/
def Assertion.HoldsAt (condition : Assertion) (text : List Char) (position : Nat) : Prop :=
  position ≤ text.length ∧ condition.holds (charBefore? none text position) text[position]? = true

/-- So many steps lead from one position to the other. -/
inductive Rounds (step : Nat → Nat → Prop) : Nat → Nat → Nat → Prop where
  | none (position : Nat) : Rounds step 0 position position
  | more {count start middle stop : Nat} (first : step start middle)
      (rest : Rounds step count middle stop) : Rounds step (count + 1) start stop

namespace Expression

/-- The expression matches the text between these two positions. -/
def Spans (text : List Char) : Expression → Nat → Nat → Prop
  | .empty, start, stop => start = stop
  | .one set, start, stop =>
      stop = start + 1 ∧ ∃ found, text[start]? = some found ∧ set.contains found.toNat = true
  | .assertion condition, start, stop => start = stop ∧ condition.HoldsAt text start
  | .sequence first second, start, stop =>
      ∃ middle, first.Spans text start middle ∧ second.Spans text middle stop
  | .choice left right, start, stop => left.Spans text start stop ∨ right.Spans text start stop
  | .repeated inner least most, start, stop =>
      ∃ count, least ≤ count ∧ (∀ bound, most = some bound → count ≤ max least bound) ∧
        Rounds (inner.Spans text) count start stop

end Expression

theorem testBit_digit (first : Bool) (rest position : Nat) :
    (first.toNat + 2 * rest).testBit position =
      match position with
      | 0 => first
      | position + 1 => rest.testBit position := by
  cases position with
  | zero => cases first <;> simp [Nat.testBit_zero]
  | succ position =>
      have half : (first.toNat + 2 * rest) / 2 = rest := by
        cases first <;> simp only [Bool.toNat_true, Bool.toNat_false] <;> omega
      rw [Nat.testBit_succ, half]

theorem testBit_charPositions (belongs : Char → Bool) (text : List Char) (position : Nat) :
    (charPositions belongs text).testBit position = text[position]?.any belongs := by
  induction text generalizing position with
  | nil => simp [charPositions]
  | cons character rest inRest =>
      rw [charPositions, testBit_digit]
      cases position with
      | zero => simp
      | succ position => simp [inRest]

theorem testBit_assertionPositions (condition : Assertion) (before : Option Char)
    (text : List Char) (position : Nat) :
    (assertionPositions condition before text).testBit position = true ↔
      position ≤ text.length ∧
        condition.holds (charBefore? before text position) text[position]? = true := by
  induction text generalizing before position with
  | nil =>
      have only := testBit_digit (condition.holds before none) 0 position
      rw [assertionPositions, show (condition.holds before none).toNat =
        (condition.holds before none).toNat + 2 * 0 from rfl, only]
      cases position <;> simp [charBefore?]
  | cons character rest inRest =>
      rw [assertionPositions, testBit_digit]
      cases position with
      | zero => simp [charBefore?]
      | succ position =>
          simp only [inRest, List.length_cons, Nat.add_le_add_iff_right, List.getElem?_cons_succ]
          cases position <;> simp [charBefore?]

section Rounds

variable {step : Nat → Nat → Prop} {count more start middle stop : Nat}

theorem rounds_zero_iff : Rounds step 0 start stop ↔ start = stop := by
  constructor
  · intro rounds
    cases rounds
    rfl
  · rintro rfl
    exact .none start

theorem rounds_succ_iff :
    Rounds step (count + 1) start stop ↔
      ∃ middle, step start middle ∧ Rounds step count middle stop := by
  constructor
  · intro rounds
    cases rounds with
    | more first rest => exact ⟨_, first, rest⟩
  · intro ⟨_, first, rest⟩
    exact .more first rest

theorem rounds_add_iff :
    Rounds step (count + more) start stop ↔
      ∃ middle, Rounds step count start middle ∧ Rounds step more middle stop := by
  induction count generalizing start with
  | zero => simp [rounds_zero_iff]
  | succ count inRest =>
      rw [Nat.add_right_comm]
      simp only [rounds_succ_iff, inRest]
      constructor
      · rintro ⟨next, first, middle, rest, others⟩
        exact ⟨middle, ⟨next, first, rest⟩, others⟩
      · rintro ⟨middle, ⟨next, first, rest⟩, others⟩
        exact ⟨next, first, middle, rest, others⟩

/-- Rounds that may also stay where they are. -/
theorem rounds_or_stay_iff :
    Rounds (fun start stop => start = stop ∨ step start stop) count start stop ↔
      ∃ taken ≤ count, Rounds step taken start stop := by
  induction count generalizing start with
  | zero => simp [rounds_zero_iff]
  | succ count inRest =>
      rw [rounds_succ_iff]
      constructor
      · rintro ⟨middle, rfl | first, rest⟩
        · obtain ⟨taken, few, rounds⟩ := inRest.mp rest
          exact ⟨taken, Nat.le_succ_of_le few, rounds⟩
        · obtain ⟨taken, few, rounds⟩ := inRest.mp rest
          exact ⟨taken + 1, Nat.succ_le_succ few, .more first rounds⟩
      · rintro ⟨taken, few, rounds⟩
        cases rounds with
        | none => exact ⟨_, .inl rfl, inRest.mpr ⟨0, Nat.zero_le _, .none _⟩⟩
        | more first rest =>
            exact ⟨_, .inr first, inRest.mpr ⟨_, Nat.le_of_succ_le_succ few, rest⟩⟩

theorem Rounds.forward (forward : ∀ start stop, step start stop → start ≤ stop)
    (rounds : Rounds step count start stop) : start ≤ stop := by
  induction rounds with
  | none => exact Nat.le_refl _
  | more first _ onward => exact Nat.le_trans (forward _ _ first) onward

theorem Rounds.inside {limit : Nat}
    (inside : ∀ start stop, step start stop → start ≤ limit → stop ≤ limit)
    (rounds : Rounds step count start stop) (within : start ≤ limit) : stop ≤ limit := by
  induction rounds with
  | none => exact within
  | more first _ onward => exact onward (inside _ _ first within)

/-- Steps that stay in place can be left out, and each of the others gets further. -/
theorem Rounds.shorten (forward : ∀ start stop, step start stop → start ≤ stop)
    (rounds : Rounds step count start stop) :
    ∃ taken ≤ stop - start, Rounds step taken start stop := by
  induction rounds with
  | none position => exact ⟨0, Nat.zero_le _, .none position⟩
  | more first rest shorter =>
      obtain ⟨taken, few, rounds⟩ := shorter
      have ahead := forward _ _ first
      have onward := rest.forward forward
      rcases Nat.eq_or_lt_of_le ahead with rfl | further
      · exact ⟨taken, few, rounds⟩
      · exact ⟨taken + 1, by omega, .more first rounds⟩

end Rounds

/-- A function on sets of positions up to `limit` that moves every position along a
relation which leads forward and not past the limit. -/
structure Carries (limit : Nat) (step : Nat → Nat) (spans : Nat → Nat → Prop) : Prop where
  forward : ∀ start stop, spans start stop → start ≤ stop
  inside : ∀ start stop, spans start stop → start ≤ limit → stop ≤ limit
  reaches : ∀ positions, (∀ position, positions.testBit position = true → position ≤ limit) →
    ∀ stop, (step positions).testBit stop = true ↔
      ∃ start, positions.testBit start = true ∧ spans start stop

section Carries

variable {limit : Nat} {step next : Nat → Nat} {spans onward : Nat → Nat → Prop}

theorem Carries.stays (carries : Carries limit step spans) {positions : Nat}
    (within : ∀ position, positions.testBit position = true → position ≤ limit) (stop : Nat)
    (reached : (step positions).testBit stop = true) : stop ≤ limit := by
  obtain ⟨start, isStart, spanned⟩ := (carries.reaches positions within stop).mp reached
  exact carries.inside start stop spanned (within start isStart)

theorem carries_id : Carries limit (fun positions => positions) Eq := by
  constructor
  case forward => exact fun _ _ same => Nat.le_of_eq same
  case inside =>
    rintro start _ rfl within
    exact within
  case reaches =>
    intro positions _ stop
    simp

theorem Carries.comp (first : Carries limit step spans) (second : Carries limit next onward) :
    Carries limit (fun positions => next (step positions))
      fun start stop => ∃ middle, spans start middle ∧ onward middle stop := by
  constructor
  case forward =>
    rintro start stop ⟨middle, ofFirst, ofSecond⟩
    exact Nat.le_trans (first.forward _ _ ofFirst) (second.forward _ _ ofSecond)
  case inside =>
    rintro start stop ⟨middle, ofFirst, ofSecond⟩ within
    exact second.inside _ _ ofSecond (first.inside _ _ ofFirst within)
  case reaches =>
    intro positions within stop
    rw [second.reaches _ (first.stays within) stop]
    simp only [first.reaches _ within]
    constructor
    · rintro ⟨middle, ⟨start, isStart, ofFirst⟩, ofSecond⟩
      exact ⟨start, isStart, middle, ofFirst, ofSecond⟩
    · rintro ⟨start, isStart, middle, ofFirst, ofSecond⟩
      exact ⟨middle, ⟨start, isStart, ofFirst⟩, ofSecond⟩

theorem Carries.union (left : Carries limit step spans) (right : Carries limit next onward) :
    Carries limit (fun positions => step positions ||| next positions)
      fun start stop => spans start stop ∨ onward start stop := by
  constructor
  case forward =>
    rintro start stop (ofLeft | ofRight)
    · exact left.forward _ _ ofLeft
    · exact right.forward _ _ ofRight
  case inside =>
    rintro start stop (ofLeft | ofRight) within
    · exact left.inside _ _ ofLeft within
    · exact right.inside _ _ ofRight within
  case reaches =>
    intro positions within stop
    simp only [Nat.testBit_or, Bool.or_eq_true, left.reaches _ within, right.reaches _ within,
      and_or_left, exists_or]

/-- Stopping at a fixed point changes nothing. -/
theorem iterate_eq (step : Nat → Nat) (count positions : Nat) :
    iterate step count positions = step^[count] positions := by
  induction count generalizing positions with
  | zero => rfl
  | succ count inRest =>
      rw [iterate, Function.iterate_succ_apply]
      by_cases fixed : step positions = positions
      · simp only [fixed, if_true]
        exact (Function.iterate_fixed fixed count).symm
      · simp only [fixed, if_false, inRest]

theorem within_eq (step : Nat → Nat) (count positions : Nat) :
    within step count positions =
      iterate (fun positions => positions ||| step positions) count positions := by
  induction count generalizing positions with
  | zero => rfl
  | succ count inRest => simp only [within, iterate, inRest]

theorem Carries.iterate (carries : Carries limit step spans) (count : Nat) :
    Carries limit (Pattern.iterate step count) (Rounds spans count) := by
  constructor
  case forward => exact fun _ _ rounds => rounds.forward carries.forward
  case inside => exact fun _ _ rounds => rounds.inside carries.inside
  case reaches =>
    intro positions within stop
    rw [iterate_eq]
    induction count generalizing positions with
    | zero => simp [rounds_zero_iff]
    | succ count inRest =>
        rw [Function.iterate_succ_apply, inRest _ (carries.stays within)]
        simp only [carries.reaches _ within, rounds_succ_iff]
        constructor
        · rintro ⟨middle, ⟨start, isStart, first⟩, rest⟩
          exact ⟨start, isStart, middle, first, rest⟩
        · rintro ⟨start, isStart, middle, first, rest⟩
          exact ⟨middle, ⟨start, isStart, first⟩, rest⟩

theorem Carries.within (carries : Carries limit step spans) (count : Nat) :
    Carries limit (Pattern.within step count)
      fun start stop => ∃ taken ≤ count, Rounds spans taken start stop := by
  have same := funext (within_eq step count)
  simp only [same, ← rounds_or_stay_iff]
  exact (carries_id.union carries).iterate count

theorem Carries.congr (carries : Carries limit step spans)
    (same : ∀ start stop, start ≤ limit → (spans start stop ↔ onward start stop))
    (forward : ∀ start stop, onward start stop → start ≤ stop)
    (inside : ∀ start stop, onward start stop → start ≤ limit → stop ≤ limit) :
    Carries limit step onward := by
  refine ⟨forward, inside, fun positions within stop => ?_⟩
  rw [carries.reaches positions within]
  exact exists_congr fun start => and_congr_right fun isStart => same start stop (within start isStart)

end Carries

namespace Expression

variable {text : List Char}

theorem one_carries (set : CharSet) :
    Carries text.length (ends text (.one set)) (Spans text (.one set)) := by
  constructor
  case forward =>
    rintro start stop ⟨rfl, _⟩
    exact Nat.le_succ start
  case inside =>
    rintro start stop ⟨rfl, found, here, _⟩ _
    exact (List.getElem?_eq_some_iff.mp here).1
  case reaches =>
    intro positions _ stop
    have shifted : (ends text (.one set) positions).testBit stop = true ↔
        1 ≤ stop ∧ positions.testBit (stop - 1) = true ∧
          text[stop - 1]?.any (fun found => set.contains found.toNat) = true := by
      rw [ends]
      by_cases none : positions = 0
      · simp [none]
      · simp [none, Nat.testBit_shiftLeft, testBit_charPositions]
    rw [shifted]
    simp only [Spans, Option.any_eq_true]
    constructor
    · rintro ⟨positive, isStart, found, here, belongs⟩
      exact ⟨stop - 1, isStart, by omega, found, here, belongs⟩
    · rintro ⟨start, isStart, rfl, found, here, belongs⟩
      exact ⟨Nat.le_add_left 1 start, isStart, found, here, belongs⟩

theorem assertion_carries (condition : Assertion) :
    Carries text.length (ends text (.assertion condition)) (Spans text (.assertion condition)) := by
  constructor
  case forward =>
    rintro start _ ⟨rfl, _⟩
    exact Nat.le_refl start
  case inside =>
    rintro start _ ⟨rfl, _⟩ within
    exact within
  case reaches =>
    intro positions _ stop
    simp only [ends, Nat.testBit_and, Bool.and_eq_true, testBit_assertionPositions, Spans,
      Assertion.HoldsAt]
    constructor
    · rintro ⟨isStart, holds⟩
      exact ⟨stop, isStart, rfl, holds⟩
    · rintro ⟨start, isStart, rfl, holds⟩
      exact ⟨isStart, holds⟩

theorem repeated_carries {inner : Expression} (least : Nat) (most : Option Nat)
    (carries : Carries text.length (inner.ends text) (inner.Spans text)) :
    Carries text.length (ends text (.repeated inner least most))
      (Spans text (.repeated inner least most)) := by
  have started := carries.iterate least
  have forward (start stop : Nat) (spans : Spans text (.repeated inner least most) start stop) :
      start ≤ stop := by
    obtain ⟨count, _, _, rounds⟩ := spans
    exact rounds.forward carries.forward
  have inside (start stop : Nat) (spans : Spans text (.repeated inner least most) start stop)
      (within : start ≤ text.length) : stop ≤ text.length := by
    obtain ⟨count, _, _, rounds⟩ := spans
    exact rounds.inside carries.inside within
  refine (started.comp (carries.within _)).congr (fun start stop within => ?_) forward inside
  rw [Spans]
  constructor
  · rintro ⟨middle, first, taken, few, rest⟩
    refine ⟨least + taken, Nat.le_add_right _ _, ?_, rounds_add_iff.mpr ⟨middle, first, rest⟩⟩
    rintro bound rfl
    simp only at few
    omega
  · rintro ⟨count, enough, few, rounds⟩
    rw [← Nat.add_sub_cancel' enough] at rounds
    obtain ⟨middle, first, rest⟩ := rounds_add_iff.mp rounds
    cases most with
    | some bound =>
        have small := few bound rfl
        exact ⟨middle, first, count - least, by simp only; omega, rest⟩
    | none =>
        obtain ⟨taken, short, rest⟩ := rest.shorten carries.forward
        have before := started.inside _ _ first within
        have after := rest.inside carries.inside before
        exact ⟨middle, first, taken, by simp only; omega, rest⟩

/-- The positions at which matching ends are those of the matches that begin in the set. -/
theorem ends_carries (expression : Expression) :
    Carries text.length (expression.ends text) (expression.Spans text) := by
  induction expression with
  | empty => exact carries_id
  | one set => exact one_carries set
  | assertion condition => exact assertion_carries condition
  | sequence first second ofFirst ofSecond => exact ofFirst.comp ofSecond
  | choice left right ofLeft ofRight => exact ofLeft.union ofRight
  | repeated inner least most ofInner => exact repeated_carries least most ofInner

/-- A pattern is found where it matches some stretch of the text. -/
theorem isFoundIn_iff {expression : Expression} :
    expression.isFoundIn text = true ↔
      ∃ start ≤ text.length, ∃ stop, expression.Spans text start stop := by
  have everywhere (position : Nat) :
      (Nat.pow 2 (text.length + 1) - 1).testBit position = true ↔ position ≤ text.length := by
    rw [Nat.pow_eq, Nat.testBit_two_pow_sub_one, decide_eq_true_iff, Nat.lt_succ_iff]
  have carries : Carries text.length (expression.ends text) (expression.Spans text) :=
    ends_carries expression
  have reaches := carries.reaches _ fun position => (everywhere position).mp
  rw [isFoundIn, bne_iff_ne]
  constructor
  · intro found
    obtain ⟨stop, isEnd⟩ := Nat.exists_testBit_of_ne_zero found
    obtain ⟨start, isStart, spans⟩ := (reaches stop).mp isEnd
    exact ⟨start, (everywhere start).mp isStart, stop, spans⟩
  · rintro ⟨start, within, stop, spans⟩ none
    have isEnd := (reaches stop).mpr ⟨start, (everywhere start).mpr within, spans⟩
    rw [none, Nat.zero_testBit] at isEnd
    cases isEnd

theorem spans_textStart_iff {start stop : Nat} :
    Spans text (.assertion .textStart) start stop ↔ start = 0 ∧ stop = 0 := by
  simp only [Spans, Assertion.HoldsAt, Assertion.holds]
  constructor
  · rintro ⟨rfl, within, holds⟩
    cases start with
    | zero => exact ⟨rfl, rfl⟩
    | succ position =>
        simp only [charBefore?, Option.isNone_iff_eq_none, List.getElem?_eq_none_iff] at holds
        omega
  · rintro ⟨rfl, rfl⟩
    exact ⟨rfl, Nat.zero_le _, rfl⟩

theorem spans_textEnd_iff {start stop : Nat} :
    Spans text (.assertion .textEnd) start stop ↔ start = text.length ∧ stop = text.length := by
  simp only [Spans, Assertion.HoldsAt, Assertion.holds, Option.isNone_iff_eq_none,
    List.getElem?_eq_none_iff]
  omega

/-- Between the anchors of a text only a match of all of it counts. -/
theorem isFoundIn_anchored_iff {inner : Expression} :
    isFoundIn (.sequence (.assertion .textStart)
        (.sequence inner (.sequence (.assertion .textEnd) .empty))) text = true ↔
      inner.Spans text 0 text.length := by
  rw [isFoundIn_iff]
  simp only [Spans.eq_4, spans_textStart_iff, spans_textEnd_iff, Spans.eq_1]
  constructor
  · rintro ⟨_, _, _, _, ⟨rfl, rfl⟩, _, spans, _, ⟨rfl, rfl⟩, _⟩
    exact spans
  · intro spans
    exact ⟨0, Nat.zero_le _, _, 0, ⟨rfl, rfl⟩, _, spans, _, ⟨rfl, rfl⟩, rfl⟩

theorem rounds_one_iff {set : CharSet} {count start stop : Nat} :
    Rounds (Spans text (.one set)) count start stop ↔
      stop = start + count ∧ ∀ position, start ≤ position → position < stop →
        ∃ found, text[position]? = some found ∧ set.contains found.toNat = true := by
  induction count generalizing start with
  | zero =>
      rw [rounds_zero_iff]
      constructor
      · rintro rfl
        exact ⟨rfl, fun position after before => by omega⟩
      · rintro ⟨rfl, _⟩
        rfl
  | succ count inRest =>
      rw [rounds_succ_iff]
      constructor
      · rintro ⟨_, ⟨rfl, here⟩, rounds⟩
        obtain ⟨rfl, rest⟩ := inRest.mp rounds
        refine ⟨by omega, fun position after before => ?_⟩
        rcases Nat.eq_or_lt_of_le after with rfl | later
        · exact here
        · exact rest position later before
      · rintro ⟨rfl, each⟩
        exact ⟨start + 1, ⟨rfl, each start (Nat.le_refl _) (by omega)⟩, inRest.mpr ⟨by omega,
          fun position after before => each position (by omega) before⟩⟩

/-- One or more characters of a set are the whole of a text. -/
theorem spans_oneOrMore_iff {set : CharSet} :
    Spans text (.repeated (.one set) 1 none) 0 text.length ↔
      text ≠ [] ∧ ∀ found ∈ text, set.contains found.toNat = true := by
  rw [Spans]
  simp only [rounds_one_iff, reduceCtorEq, false_implies, implies_true, true_and, Nat.zero_add,
    Nat.zero_le, forall_const]
  constructor
  · rintro ⟨_, some, rfl, each⟩
    refine ⟨fun none => ?_, fun found member => ?_⟩
    · simp [none] at some
    · obtain ⟨position, here⟩ := List.mem_iff_getElem?.mp member
      obtain ⟨other, same, belongs⟩ := each position (List.getElem?_eq_some_iff.mp here).1
      cases here.symm.trans same
      exact belongs
  · rintro ⟨some, each⟩
    refine ⟨text.length, List.length_pos_iff.mpr some, rfl, fun position before => ?_⟩
    exact ⟨text[position], List.getElem?_eq_getElem before, each _ (List.getElem_mem before)⟩

end Expression
end DocShape.Pattern
