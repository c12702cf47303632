import DocShape.Proofs.Grammar.Bounds
import DocShape.Proofs.Grammar.Leaf
import DocShape.Schema

namespace DocShape

/-! Integers against ranges with integer bounds.

Bounds and documents are both rounded before they are compared, so a range is exact for an
integer unless a bound meets it in rounding.
-/

namespace Bound

variable {number : Int}

/-- Some bound of a range definition is broken. -/
def AnyBroken (less : Int → Int → Prop) (bounds : Entries) (number : Int) : Prop :=
  ∃ entry ∈ bounds, ∃ bound, entry.2.content = .int bound ∧
    Broken less (Heading.keywordOf entry.1) bound number

/-- The order of integers once they are rounded. -/
def RoundedLess (left right : Int) : Prop :=
  (Binary64.ofInt left).lt (Binary64.ofInt right) = true

theorem broken_rounded_iff {key : String} {bound : Int} :
    Broken RoundedLess key bound number ↔ Broken Less key (.ofInt bound) (.ofInt number) := by
  unfold Broken
  split <;> simp only [RoundedLess, Less]

theorem anyBroken_iff {bounds : Entries}
    (whole : ∀ entry ∈ bounds, ∃ bound, entry.2.content = .int bound) :
    AnyBroken RoundedLess bounds number ↔ ¬ Admit bounds (.ofInt number) := by
  unfold Admit
  push Not
  constructor
  · intro ⟨entry, member, bound, isBound, broken⟩
    have stored : entry.2.number? = some (.ofInt bound) := by
      rw [Value.number?, isBound]
    exact ⟨_, _, ⟨entry, member, rfl, stored⟩, broken_rounded_iff.mp broken⟩
  · intro ⟨key, stored, ⟨entry, member, isKey, isStored⟩, broken⟩
    obtain ⟨bound, isBound⟩ := whole entry member
    rw [Value.number?, isBound, Option.some.injEq] at isStored
    subst isStored isKey
    exact ⟨entry, member, bound, isBound, broken_rounded_iff.mpr broken⟩

end Bound

namespace Heading

variable {path : String} {entries : Entries} {number : Int}

/-- A range excludes an integer when the rounded integer breaks one of its rounded bounds. -/
theorem contains_of_rangeOf {range : Range}
    (whole : ∀ entry ∈ entries, ∃ bound, entry.2.content = .int bound)
    (read : rangeOf path (.map entries) = .ok range) :
    range.contains (.ofInt number) = false ↔
      Bound.AnyBroken Bound.RoundedLess entries number := by
  rw [Bound.anyBroken_iff whole, ← contains_iff_admit (Binary64.ofInt_ne_nan number) read,
    Bool.not_eq_true]

end Heading

namespace Validation

variable {config : Config} {path : DocPath} {leaf : Scalar} {range : Range} {number : Int}

/-- Something is reported as out of range. -/
def ReportsRange (found : List Violation) : Prop :=
  ∃ violation ∈ found, violation.kind = .rangeViolation

/-- Of an integer, a leaf for integers or numbers reports that it is out of range exactly when
it is. -/
theorem reportsRange_scalar_iff (numeric : leaf.kind = .int ∨ leaf.kind = .number)
    (ranged : leaf.range = some range) {document : Value} (whole : document.content = .int number) :
    ReportsRange (check config path (.scalar leaf) document) ↔
      range.contains (.ofInt number) = false := by
  have typed : leaf.kind ≠ .any := by
    rcases numeric with isInt | isNumber
    · simp [isInt]
    · simp [isNumber]
  have matched : kindMatches leaf.kind (.int number) = true := by
    rcases numeric with isInt | isNumber
    · rw [isInt]
      rfl
    · rw [isNumber]
      rfl
  have others (violation : Violation) (member : violation ∈ allowedFault path leaf (.int number)) :
      violation.kind ≠ .rangeViolation := by
    unfold allowedFault at member
    split at member
    · cases member
    · cases List.mem_singleton.mp member
      simp [Violation.kind]
  simp only [check, whole, scalarViolations, typed, if_false, matched, if_true, emptiness,
    patternFault, List.nil_append, ReportsRange]
  cases contained : range.contains (.ofInt number) with
  | true =>
      simp only [rangeFault, ranged, measure?, contained, if_true, List.append_nil, reduceCtorEq,
        iff_false, not_exists, not_and]
      exact others
  | false =>
      simp only [rangeFault, ranged, measure?, contained, Bool.false_eq_true, if_false, iff_true]
      exact ⟨_, List.mem_append_right _ (List.mem_singleton_self _), rfl⟩

end Validation

namespace Definition

variable {scope : Scope} {before after : Catalog Node} {limit depth : Nat} {path : String}
  {entries bounds : Entries} {node : Node} {name : String}

/-- A definition with a scalar's type and a range builds a leaf with that range. -/
theorem leaf_of_build {kind : Kind} {definition : Value}
    (built : scope.build (read limit path depth (.map entries)) before = .ok (node, after))
    (typed : entries.get? "type" = some (.string name)) (named : Kind.ofName? name = some kind)
    (ranged : entries.get? "range" = some definition) :
    ∃ leaf range, node = .scalar leaf ∧ leaf.kind = kind ∧ leaf.range = some range ∧
      Heading.rangeOf path definition = .ok range := by
  obtain ⟨leaf, rfl, declared⟩ := declared_of_build built (by decide) ranged
  obtain ⟨_, range, isRange, isRead⟩ := declared.range_of_get? ranged
  refine ⟨leaf, range, rfl, ?_, isRange, isRead⟩
  obtain ⟨written, asked, isKind⟩ | ⟨untyped, _⟩ := declared.kind
  · cases typed.symm.trans asked
    exact Option.some.inj (isKind.symm.trans named)
  · simp [typed] at untyped

/-- A range that is written with integers is reported for an integer that breaks a bound once
both are rounded.  Rounding changes nothing for an integer that no other bound meets, and
integers that meet have more than 53 bits. -/
theorem reportsRange_iff_broken
    (built : scope.build (read limit path depth (.map entries)) before = .ok (node, after))
    (typed : entries.get? "type" = some (.string name))
    (numeric : Kind.ofName? name = some .int ∨ Kind.ofName? name = some .number)
    (ranged : entries.get? "range" = some (.map bounds))
    (whole : ∀ entry ∈ bounds, ∃ bound, entry.2.content = .int bound)
    (config : Config) (place : DocPath) (document : Value) (number : Int)
    (isInt : document.content = .int number) :
    (Validation.ReportsRange (Validation.check config place node document) ↔
        Bound.AnyBroken Bound.RoundedLess bounds number) ∧
      ((∀ entry ∈ bounds, ∀ bound, entry.2.content = .int bound → bound ≠ number →
          ¬ Binary64.Meet bound number) →
        (Validation.ReportsRange (Validation.check config place node document) ↔
          Bound.AnyBroken (· < ·) bounds number)) ∧
      ∀ bound : Int, bound ≠ number → Binary64.Meet bound number →
        2 ^ 53 ≤ bound.natAbs ∧ 2 ^ 53 ≤ number.natAbs := by
  have rounded : Validation.ReportsRange (Validation.check config place node document) ↔
      Bound.AnyBroken Bound.RoundedLess bounds number := by
    obtain ⟨kind, named, isNumeric⟩ :
        ∃ kind, Kind.ofName? name = some kind ∧ (kind = .int ∨ kind = .number) := by
      rcases numeric with named | named
      · exact ⟨_, named, .inl rfl⟩
      · exact ⟨_, named, .inr rfl⟩
    obtain ⟨leaf, range, rfl, rfl, isRange, isRead⟩ := leaf_of_build built typed named ranged
    rw [Validation.reportsRange_scalar_iff isNumeric isRange isInt,
      Heading.contains_of_rangeOf whole isRead]
  refine ⟨rounded, fun apart => rounded.trans ?_, fun bound other meet => meet.le_natAbs other⟩
  refine exists_congr fun entry => and_congr_right fun member => exists_congr fun bound =>
    and_congr_right fun isBound => Bound.broken_congr ?_ ?_
  · exact Binary64.ofInt_lt_iff_of_apart fun other meet =>
      apart entry member bound isBound other.symm meet.symm
  · exact Binary64.ofInt_lt_iff_of_apart fun other meet =>
      apart entry member bound isBound other meet

/-- The first integer of 54 bits has a neighbour that is rounded to it. -/
theorem reportsRange_misses_neighbour :
    ∃ schema, Schema.ofSource .empty (.map [(.string "type", .string "int"),
        (.string "range", .map [(.string "min", .int 9007199254740993)])]) = .ok schema ∧
      ¬ Validation.ReportsRange (schema.validate (.int 9007199254740992)) ∧
      Bound.AnyBroken (· < ·) [(.string "min", .int 9007199254740993)] 9007199254740992 := by
  have silent : ((Schema.ofSource .empty (.map [(.string "type", .string "int"),
      (.string "range", .map [(.string "min", .int 9007199254740993)])])).toOption.map
        fun schema => (schema.validate (.int 9007199254740992)).isEmpty) = some true := by
    decide +kernel
  obtain ⟨schema, made, silent⟩ := Option.map_eq_some_iff.mp silent
  refine ⟨schema, toOption_eq_some_iff.mp made, ?_, ?_⟩
  · rw [List.isEmpty_iff.mp silent]
    rintro ⟨_, member, _⟩
    cases member
  · exact ⟨_, List.mem_singleton_self _, _, rfl, Int.lt_succ 9007199254740992⟩

theorem reportsRange_iff_broken_open :
    ∃ node after, Scope.build ⟨.empty, .empty⟩ (read 64 "<root>" 0 (.map
        [(.string "type", .string "number"), (.string "range", .map
          [(.string "min-ex", .int 3), (.tagged "!end" (.string "max"), .int 10)])])) .empty =
          .ok (node, after) ∧
      Validation.ReportsRange (Validation.check .standard [] node (.int 3)) ∧
      ¬ Validation.ReportsRange (Validation.check .standard [] node (.int 4)) := by
  have succeeds : (Scope.build ⟨.empty, .empty⟩ (read 64 "<root>" 0 (.map
      [(.string "type", .string "number"), (.string "range", .map
        [(.string "min-ex", .int 3), (.tagged "!end" (.string "max"), .int 10)])]))
          .empty).isOk = true := by
    decide +kernel
  obtain ⟨⟨node, after⟩, built⟩ := exists_of_isOk succeeds
  have compared (number : Int) (short : number.natAbs < 2 ^ 53) :=
    (reportsRange_iff_broken built rfl (.inr rfl) rfl (by simp [Value.content]) .standard []
      (.int number) number rfl).2.1 fun _ _ bound _ other meet =>
        Nat.not_le_of_lt short (meet.le_natAbs other).2
  refine ⟨node, after, built, (compared 3 (by decide)).mpr ?_, mt (compared 4 (by decide)).mp ?_⟩
  · exact ⟨_, List.mem_cons_self, 3, rfl, Int.lt_irrefl 3⟩
  · rintro ⟨entry, member, bound, isBound, broken⟩
    simp only [List.mem_cons, List.not_mem_nil, or_false] at member
    rcases member with rfl | rfl
    · cases isBound
      exact broken (show (3 : Int) < 4 by decide)
    · cases isBound
      exact absurd broken (show ¬ (10 : Int) < 4 by decide)

end Definition
end DocShape
