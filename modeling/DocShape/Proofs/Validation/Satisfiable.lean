import DocShape.Proofs.Grammar.Bounds
import DocShape.Proofs.Grammar.Leaf
import DocShape.Proofs.Linking.WellFormed
import DocShape.Proofs.Validation.Laws

namespace DocShape

/-! Which ranges can be met by a document.

An accepted range leaves a point between its ends, but what it bounds are whole numbers,
lengths or numbers of 64 bits.  Where none of these lies at that point, the definition accepts
no document at all.
-/

/-- A value as a document can hold it: an integer of 64 bits, with a sign or without, a number
that the format can hold, and a text that can be addressed. -/
def Value.Storable : Value → Prop
  | .int number => -2 ^ 63 ≤ number ∧ number < 2 ^ 64
  | .float number => number.Representable
  | .string text => text.utf8ByteSize < 2 ^ 63
  | _ => True

theorem Value.representable_of_number? {value : Value} {number : Binary64}
    (storable : value.content.Storable) (found : value.number? = some number) :
    number.Representable := by
  unfold number? at found
  cases content : value.content with
  | int whole =>
      rw [content, Option.some.injEq] at found
      subst found
      exact Binary64.representable_ofInt whole
  | float stored =>
      rw [content] at storable found
      cases found
      exact storable
  | _ => simp [content] at found

/-- A character takes at least one byte. -/
theorem length_le_utf8ByteSize (text : String) : text.length ≤ text.utf8ByteSize := by
  have ofCharacters (characters : List Char) :
      characters.length ≤ (String.ofList characters).utf8ByteSize := by
    induction characters with
    | nil => simp
    | cons first rest inRest =>
        have parts : String.ofList (first :: rest) = String.singleton first ++ String.ofList rest := by
          rw [← String.toList_inj]
          simp
        have positive := first.utf8Size_pos
        rw [parts, String.utf8ByteSize_append, String.utf8ByteSize_singleton, List.length_cons]
        omega
  have bounded := ofCharacters text.toList
  rwa [String.ofList_toList, String.length_toList] at bounded

theorem exists_text_of_length (length : Nat) :
    ∃ text : String, text.length = length ∧ text.utf8ByteSize = length := by
  induction length with
  | zero => exact ⟨"", rfl, rfl⟩
  | succ length shorter =>
      obtain ⟨text, isLong, size⟩ := shorter
      refine ⟨text.push 'a', ?_, ?_⟩
      · rw [String.length_push, isLong]
      · rw [String.utf8ByteSize_push, size]
        rfl

namespace Bound

variable {bound : Bound} {value : Binary64}

theorem below_of_lt (past : bound.value.lt value = true) : bound.below value = true := by
  unfold below
  split
  · exact past
  · rw [Binary64.le_iff_lt_or_same, past, Bool.true_or]

theorem above_of_lt (short : value.lt bound.value = true) : bound.above value = true := by
  unfold above
  split
  · exact short
  · rw [Binary64.le_iff_lt_or_same, short, Bool.true_or]

theorem below_of_same (inclusive : bound.exclusive = false)
    (same : bound.value.same value = true) : bound.below value = true := by
  rw [below, inclusive, if_neg Bool.false_ne_true, Binary64.le_iff_lt_or_same, same, Bool.or_true]

theorem above_of_same (inclusive : bound.exclusive = false)
    (same : value.same bound.value = true) : bound.above value = true := by
  rw [above, inclusive, if_neg Bool.false_ne_true, Binary64.le_iff_lt_or_same, same, Bool.or_true]

end Bound

namespace Range

variable {range : Range}

/-- Neither end belongs to the range, and no number of the format lies between them. -/
def Tight (range : Range) : Prop :=
  ∃ low high, range.min = some ⟨low, true⟩ ∧ range.max = some ⟨high, true⟩ ∧
    ∀ number : Binary64, number.Representable → low.lt number = true → number.lt high = false

theorem contains_iff {number : Binary64} :
    range.contains number = true ↔
      (∀ low, range.min = some low → low.below number = true) ∧
        ∀ high, range.max = some high → high.above number = true := by
  unfold contains
  cases range.min <;> cases range.max <;> simp

theorem not_tight_of_contains {number : Binary64} (held : number.Representable)
    (contained : range.contains number = true) : ¬ range.Tight := by
  intro ⟨low, high, isMin, isMax, empty⟩
  obtain ⟨below, above⟩ := contains_iff.mp contained
  have none := empty number held (below _ isMin)
  rw [show number.lt high = true from above _ isMax] at none
  cases none

/-- Between two ends there is one of them or, unless the range is tight, a number that is
neither. -/
theorem exists_between_ends {low high : Bound} (isMin : range.min = some low)
    (isMax : range.max = some high) (lowHeld : low.value.Representable)
    (highHeld : high.value.Representable) (loose : ¬ range.Tight) :
    ∃ number : Binary64, number.Representable ∧ low.below number = true ∧
      high.above number = true := by
  have lowSame := Binary64.same_self (range.end_ne_nan (.inl isMin))
  have highSame := Binary64.same_self (range.end_ne_nan (.inr isMax))
  have ordered := (fault?_eq_none_iff.mp range.sound).ordered low high isMin isMax
  obtain apart | ⟨meet, lowBelongs, highBelongs⟩ := ordered
  · cases lowOpen : low.exclusive with
    | false =>
        exact ⟨low.value, lowHeld, Bound.below_of_same lowOpen lowSame, Bound.above_of_lt apart⟩
    | true =>
        cases highOpen : high.exclusive with
        | false =>
            exact ⟨high.value, highHeld, Bound.below_of_lt apart,
              Bound.above_of_same highOpen highSame⟩
        | true =>
            by_contra empty
            refine loose ⟨low.value, high.value, by rw [isMin, ← lowOpen],
              by rw [isMax, ← highOpen], fun number held past => ?_⟩
            by_contra short
            exact empty ⟨number, held, Bound.below_of_lt past,
              Bound.above_of_lt (Bool.eq_true_of_not_eq_false short)⟩
  · exact ⟨low.value, lowHeld, Bound.below_of_same lowBelongs lowSame,
      Bound.above_of_same highBelongs meet⟩

/-- A range that is not tight contains a number of the format: an infinite one, where it has
only one end. -/
theorem exists_contained_of_not_tight
    (held : ∀ bound ∈ range.min.toList ++ range.max.toList, bound.value.Representable)
    (loose : ¬ range.Tight) :
    ∃ number : Binary64, number.Representable ∧ range.contains number = true := by
  have fits := fault?_eq_none_iff.mp range.sound
  have between (bound : Bound) (isEnd : bound ∈ range.min.toList ++ range.max.toList) :=
    (held bound isEnd).between_infinite (fits.finite bound isEnd)
  simp only [contains_iff]
  cases isMin : range.min with
  | none =>
      cases isMax : range.max with
      | none => exact absurd fits.present (by simp [isMin, isMax])
      | some high =>
          have short := (between high (by simp [isMax])).1
          exact ⟨.infinite true, .endless true, nofun, by simpa using Bound.above_of_lt short⟩
  | some low =>
      cases isMax : range.max with
      | none =>
          have past := (between low (by simp [isMin])).2
          exact ⟨.infinite false, .endless false, by simpa using Bound.below_of_lt past, nofun⟩
      | some high =>
          simpa using exists_between_ends isMin isMax (held low (by simp [isMin]))
            (held high (by simp [isMax])) loose

end Range

/-- What the bounds of a range definition leave for documents of a kind: a length, a whole
number, or a number of the format, of which there is none only between two open ends. -/
def Bound.LeaveRoom (bounds : Entries) : Kind → Prop
  | .str => ∃ length : Nat, length < 2 ^ 63 ∧ Bound.Admit bounds (.ofNat length)
  | .int => ∃ number : Int, -2 ^ 63 ≤ number ∧ number < 2 ^ 64 ∧ Bound.Admit bounds (.ofInt number)
  | .number | .float => ¬ ∃ low high : Binary64, Bound.Written bounds "min-ex" low ∧
      Bound.Written bounds "max-ex" high ∧ ∀ number : Binary64, number.Representable →
        low.lt number = true → number.lt high = false
  | .bool | .any => False

namespace Heading

variable {path : String} {bounds : Entries} {range : Range} {kind : Kind}

theorem tight_iff (read : rangeOf path (.map bounds) = .ok range) :
    range.Tight ↔ ∃ low high : Binary64, Bound.Written bounds "min-ex" low ∧
      Bound.Written bounds "max-ex" high ∧ ∀ number : Binary64, number.Representable →
        low.lt number = true → number.lt high = false := by
  obtain ⟨lowEnd, highEnd⟩ := ends_of_rangeOf read
  unfold Range.Tight
  simp only [lowEnd, highEnd]
  rfl

/-- Numbers of the format are left out altogether only by a tight range. -/
theorem exists_number_iff (storable : ∀ entry ∈ bounds, entry.2.content.Storable)
    (read : rangeOf path (.map bounds) = .ok range) :
    (∃ number : Binary64, number.Representable ∧ range.contains number = true) ↔ ¬ range.Tight := by
  constructor
  · intro ⟨number, held, contained⟩
    exact Range.not_tight_of_contains held contained
  · refine Range.exists_contained_of_not_tight fun bound isEnd => ?_
    obtain ⟨lowEnd, highEnd⟩ := ends_of_rangeOf read
    have written : ∃ key, Bound.Written bounds key bound.value := by
      obtain isMin | isMax := List.mem_append.mp isEnd
      · exact ⟨_, (lowEnd bound).mp (Option.mem_toList.mp isMin)⟩
      · exact ⟨_, (highEnd bound).mp (Option.mem_toList.mp isMax)⟩
    obtain ⟨_, entry, member, _, stored⟩ := written
    exact Value.representable_of_number? (storable entry member) stored

/-- Some storable value of a kind has its measure in a range exactly when the bounds leave
room for one. -/
theorem leaveRoom_iff {kind : Kind} (supported : kind.supportsRange = true)
    (storable : ∀ entry ∈ bounds, entry.2.content.Storable)
    (read : rangeOf path (.map bounds) = .ok range) :
    (∃ value : Value, value.Storable ∧ kind.Has value ∧
        ∀ measured, value.Measures measured → range.contains measured = true) ↔
      Bound.LeaveRoom bounds kind := by
  have ofWhole (number : Int) :
      range.contains (.ofInt number) = true ↔ Bound.Admit bounds (.ofInt number) :=
    contains_iff_admit (Binary64.ofInt_ne_nan number) read
  cases kind with
  | str =>
      constructor
      · intro ⟨_, fits, has, within⟩
        cases has with
        | str text =>
            refine ⟨text.length, Nat.lt_of_le_of_lt (length_le_utf8ByteSize text) fits, ?_⟩
            have contained := within _ (.length text)
            rw [Binary64.ofNat_eq_ofInt] at contained ⊢
            exact (ofWhole _).mp contained
      · intro ⟨length, short, admitted⟩
        obtain ⟨text, isLong, size⟩ := exists_text_of_length length
        refine ⟨.string text, show text.utf8ByteSize < 2 ^ 63 from size ▸ short, .str text, ?_⟩
        intro measured measures
        cases measures
        rw [isLong, Binary64.ofNat_eq_ofInt] at *
        exact (ofWhole _).mpr admitted
  | int =>
      constructor
      · intro ⟨_, fits, has, within⟩
        cases has with
        | int number => exact ⟨number, fits.1, fits.2, (ofWhole number).mp (within _ (.int number))⟩
      · intro ⟨number, above, below, admitted⟩
        refine ⟨.int number, ⟨above, below⟩, .int number, ?_⟩
        intro measured measures
        cases measures
        exact (ofWhole number).mpr admitted
  | float =>
      rw [Bound.LeaveRoom, ← tight_iff read, ← exists_number_iff storable read]
      constructor
      · intro ⟨_, held, has, within⟩
        cases has with
        | float number => exact ⟨number, held, within _ (.float number)⟩
      · intro ⟨number, held, contained⟩
        refine ⟨.float number, held, .float number, ?_⟩
        intro measured measures
        cases measures
        exact contained
  | number =>
      rw [Bound.LeaveRoom, ← tight_iff read, ← exists_number_iff storable read]
      constructor
      · intro ⟨_, held, has, within⟩
        cases has with
        | whole number =>
            exact ⟨.ofInt number, Binary64.representable_ofInt number, within _ (.int number)⟩
        | decimal number => exact ⟨number, held, within _ (.float number)⟩
      · intro ⟨number, held, contained⟩
        refine ⟨.float number, held, .decimal number, ?_⟩
        intro measured measures
        cases measures
        exact contained
  | bool => cases supported
  | any => cases supported

end Heading

namespace Definition

variable {scope : Scope} {before after : Catalog Node} {limit depth : Nat} {path : String}
  {entries bounds : Entries} {node : Node}

/-- Where a range is the only constraint, documents of the leaf's kind are accepted for having
their measure in it. -/
theorem bounded_of_build
    (built : scope.build (read limit path depth (.map entries)) before = .ok (node, after))
    (ranged : entries.get? "range" = some (.map bounds))
    (alone : entries.Lacks ["enum", "pattern"])
    (unfilled : entries.get? "allowempty" ≠ some (.bool false)) :
    ∃ kind range, Grammar.IsOfKind entries kind ∧ kind.supportsRange = true ∧
      Heading.rangeOf path (.map bounds) = .ok range ∧
      ∀ config place document, Validation.check config place node document = [] ↔
        kind.Has document.content ∧
          ∀ measured, document.content.Measures measured → range.contains measured = true := by
  obtain ⟨leaf, rfl, declared⟩ := declared_of_build built (by decide) ranged
  obtain ⟨supported, range, isRange, read⟩ := declared.range_of_get? ranged
  refine ⟨leaf.kind, range, declared.kind, supported, read, fun config place document => ?_⟩
  have typed : leaf.kind ≠ .any := by
    intro anything
    rw [anything] at supported
    cases supported
  have ranged_only := declared.ranged_only unfilled alone
  rw [isRange] at ranged_only
  rw [Validation.check_scalar, Validation.scalarViolations_eq_nil_iff, or_iff_right typed,
    ranged_only]
  exact Node.admits_ranged_iff

/-- What is wrong with the range of a definition comes out of the build, unless the definition
is refused for what is read before it. -/
theorem build_of_rangeOf_error {kind : Kind} {error : SchemaError} (shallow : depth ≤ limit)
    (ranged : Grammar.Ranged entries kind)
    (unfilled : entries.get? "allowempty" ≠ some (.bool false))
    (stored : entries.get? "range" = some (.map bounds))
    (invalid : Heading.rangeOf path (.map bounds) = .error error) :
    scope.build (read limit path depth (.map entries)) before = .error error := by
  rw [read_map shallow, Heading.read_of_rangeOf_error ranged unfilled stored invalid]
  rfl

/-- An accepted range leaves a point between its bounds, and a document of its kind meets it
if the bounds leave room for one; with bounds that have no point between them nothing is built,
and a definition with nothing else wrong is refused for an invalid range. -/
theorem satisfiable_iff_leaveRoom (ranged : entries.get? "range" = some (.map bounds))
    (storable : ∀ entry ∈ bounds, entry.2.content.Storable)
    (alone : entries.Lacks ["enum", "pattern"])
    (unfilled : entries.get? "allowempty" ≠ some (.bool false)) :
    (∀ node after,
      scope.build (read limit path depth (.map entries)) before = .ok (node, after) →
        ∃ kind, Grammar.IsOfKind entries kind ∧ (∃ point, Bound.AdmitPoint bounds point) ∧
          ∀ config place,
            (∃ document : Value, document.content.Storable ∧ kind.Has document.content ∧
              Validation.check config place node document = []) ↔ Bound.LeaveRoom bounds kind) ∧
    ((∀ point, ¬ Bound.AdmitPoint bounds point) →
      ∃ fault, Heading.rangeOf path (.map bounds) = .error (.invalidRange path fault) ∧
        (∀ built, scope.build (read limit path depth (.map entries)) before ≠ .ok built) ∧
          ∀ kind, depth ≤ limit → Grammar.Ranged entries kind →
            scope.build (read limit path depth (.map entries)) before =
              .error (.invalidRange path fault)) := by
  constructor
  · intro node after built
    obtain ⟨kind, range, isKind, supported, read, accepts⟩ :=
      bounded_of_build built ranged alone unfilled
    refine ⟨kind, isKind, Heading.admitPoint_of_rangeOf read, fun config place => ?_⟩
    rw [← Heading.leaveRoom_iff supported storable read]
    constructor
    · intro ⟨document, fits, has, accepted⟩
      exact ⟨document.content, fits, has, ((accepts config place document).mp accepted).2⟩
    · intro ⟨value, fits, has, within⟩
      have plain := has.content
      refine ⟨value, plain.symm ▸ fits, plain.symm ▸ has, (accepts config place value).mpr ?_⟩
      exact plain.symm ▸ ⟨has, within⟩
  · intro apart
    have unread (range : Range) : Heading.rangeOf path (.map bounds) ≠ .ok range := by
      intro read
      obtain ⟨point, admitted⟩ := Heading.admitPoint_of_rangeOf read
      exact apart point admitted
    obtain ⟨range, read⟩ | ⟨fault, invalid⟩ := Heading.rangeOf_cases path (.map bounds)
    · exact absurd read (unread range)
    · refine ⟨fault, invalid, fun ⟨node, after⟩ built => ?_, fun kind shallow bears => ?_⟩
      · obtain ⟨_, range, _, _, read, _⟩ := bounded_of_build built ranged alone unfilled
        exact unread range read
      · exact build_of_rangeOf_error shallow bears unfilled ranged invalid

/-- Numbers strictly between zero and the least positive number. -/
def emptyRange : Entries :=
  [(.string "type", .string "number"),
    (.string "range", .map
      [(.string "min-ex", .float (.finite false 0)), (.string "max-ex", .float (.finite false 1))])]

/-- A range without a number in it is accepted, and then no document is. -/
theorem validate_never_accepts :
    ∃ schema, Schema.ofSource .empty (.map emptyRange) = .ok schema ∧
      ∀ document, schema.validate document ≠ [] := by
  have builds : (Schema.ofSource .empty (.map emptyRange)).isOk = true := by
    decide +kernel
  obtain ⟨schema, made⟩ := exists_of_isOk builds
  refine ⟨schema, made, fun document accepted => ?_⟩
  obtain ⟨_, same, _, _, _, before, _, root, after, built, rfl⟩ := Schema.ofSource_eq_ok_iff.mp made
  cases same
  have unnamed : Source.fragmentName? (.string "type") = none ∧
      Source.fragmentName? (.string "range") = none := by
    decide +kernel
  have whole : Source.remaining emptyRange = emptyRange := by
    simp [Source.remaining, emptyRange, unnamed]
  rw [Source.body, whole] at built
  obtain ⟨kind, range, isKind, supported, read, accepts⟩ :=
    bounded_of_build built rfl (by simp [emptyRange, Entries.get?, Value.isPlain])
      (by simp [emptyRange, Entries.get?, Value.isPlain])
  obtain ⟨has, within⟩ := (accepts _ _ document).mp accepted
  obtain ⟨lowEnd, highEnd⟩ := Heading.ends_of_rangeOf read
  have isMin : range.min = some ⟨.finite false 0, true⟩ :=
    (lowEnd ⟨_, true⟩).mpr ⟨_, List.mem_cons_self, rfl, rfl⟩
  have isMax : range.max = some ⟨.finite false 1, true⟩ :=
    (highEnd ⟨_, true⟩).mpr ⟨_, List.mem_cons_of_mem _ List.mem_cons_self, rfl, rfl⟩
  obtain ⟨measured, measures⟩ := has.measured supported
  obtain ⟨below, above⟩ := Range.contains_iff.mp (within measured measures)
  have past : (Binary64.finite false 0).lt measured = true := below _ isMin
  have short : measured.lt (.finite false 1) = true := above _ isMax
  cases stands : measured.position? with
  | none => simp [Binary64.lt, stands] at short
  | some place =>
      have positive := (Binary64.lt_iff_of_position? rfl stands).mp past
      have small := (Binary64.lt_iff_of_position? stands rfl).mp short
      simp only [Bool.false_eq_true, if_false] at positive small
      omega

/-- Above zero, up to three. -/
def smallBounds : Entries :=
  [(.string "min-ex", .int 0), (.tagged "!end" (.string "max"), .int 3)]

theorem smallBounds_admit_one : Bound.Admit smallBounds (.ofInt 1) := by
  intro key bound ⟨entry, member, isKey, stored⟩ broken
  simp only [smallBounds, List.mem_cons, List.not_mem_nil, or_false] at member
  obtain rfl | rfl := member
  · cases isKey
    have isBound : Binary64.ofInt 0 = bound := Option.some.inj stored
    subst isBound
    have past : (Binary64.ofInt 0).lt (.ofInt 1) = true := by
      decide +kernel
    exact broken past
  · cases isKey
    have isBound : Binary64.ofInt 3 = bound := Option.some.inj stored
    subst isBound
    have short : (Binary64.ofInt 3).lt (.ofInt 1) = false := by
      decide +kernel
    exact Bool.eq_false_iff.mp short broken

/-- From the least positive number up to zero. -/
def crossedBounds : Entries :=
  [(.string "min", .float (.finite false 1)), (.string "max", .float (.finite false 0))]

theorem crossedBounds_admit_none (point : ℚ) : ¬ Bound.AdmitPoint crossedBounds point := by
  intro admitted
  have above := admitted "min" (.finite false 1) 1 ⟨_, List.mem_cons_self, rfl, rfl⟩ rfl
  have below := admitted "max" (.finite false 0) 0
    ⟨_, List.mem_cons_of_mem _ List.mem_cons_self, rfl, rfl⟩ rfl
  exact above (lt_of_le_of_lt (not_lt.mp below) (Int.cast_lt.mpr Int.zero_lt_one))

theorem satisfiable_iff_leaveRoom_small :
    (∃ node after, Scope.build ⟨.empty, .empty⟩ (read 64 "<root>" 0 (.map
          [(.string "type", .string "int"), (.string "range", .map smallBounds)])) .empty =
        .ok (node, after) ∧
      ∃ document, Validation.check .standard [] node document = []) ∧
    ∃ fault, Heading.rangeOf "<root>" (.map crossedBounds) =
        .error (.invalidRange "<root>" fault) ∧
      Scope.build ⟨.empty, .empty⟩ (read 64 "<root>" 0 (.map
          [(.string "range", .map crossedBounds)])) .empty =
        .error (.invalidRange "<root>" fault) := by
  constructor
  · have succeeds : (Scope.build ⟨.empty, .empty⟩ (read 64 "<root>" 0 (.map
        [(.string "type", .string "int"), (.string "range", .map smallBounds)])) .empty).isOk =
          true := by
      decide +kernel
    obtain ⟨⟨node, after⟩, built⟩ := exists_of_isOk succeeds
    obtain ⟨kind, isKind, _, satisfiable⟩ :=
      (satisfiable_iff_leaveRoom rfl (by simp [smallBounds, Value.content, Value.Storable])
        (by simp [Entries.get?, Value.isPlain]) (by simp [Entries.get?, Value.isPlain])).1
          node after built
    obtain ⟨name, typed, named⟩ | ⟨untyped, _⟩ := isKind
    · cases typed
      cases named
      obtain ⟨document, _, _, accepted⟩ := (satisfiable .standard []).mpr
        ⟨1, by decide, by decide, smallBounds_admit_one⟩
      exact ⟨node, after, built, document, accepted⟩
    · cases untyped
  · have least : (Binary64.finite false 1).Representable :=
      .bounded false (by decide +kernel) (by decide +kernel)
    have zero : (Binary64.finite false 0).Representable :=
      .bounded false (by decide +kernel) (by decide +kernel)
    have ranged : Grammar.Ranged [(.string "range", .map crossedBounds)] .str := by
      constructor
      case keyed =>
        have checked :
            Heading.checkKeywords "" [(.string "range", .map crossedBounds)] = .ok () := rfl
        exact Heading.checkKeywords_eq_ok_iff_keyed.mp checked
      case asked => exact .inr ⟨rfl, rfl⟩
      case supported => rfl
      case lacks => simp [Entries.get?, Value.isPlain]
      case flagged => simp [Entries.Flagged, Entries.get?, Value.isPlain]
    obtain ⟨fault, invalid, _, refused⟩ :=
      (@satisfiable_iff_leaveRoom ⟨.empty, .empty⟩ .empty 64 0 "<root>"
        [(.string "range", .map crossedBounds)] crossedBounds rfl
        (by simp [crossedBounds, Value.content, Value.Storable, least, zero])
        (by simp [Entries.get?, Value.isPlain]) (by simp [Entries.get?, Value.isPlain])).2
          crossedBounds_admit_none
    exact ⟨fault, invalid, refused .str (Nat.zero_le _) ranged⟩

end Definition
end DocShape
