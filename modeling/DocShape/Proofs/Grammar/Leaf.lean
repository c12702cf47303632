import DocShape.Proofs.Linking.Mentions

namespace DocShape

/-! Definitions that ask for a leaf by a keyword that nothing else has, and the leaf that is
built from them. -/

/-- The kind of scalars that a definition asks for; without a type it asks for strings. -/
def Grammar.IsOfKind (entries : Entries) (kind : Kind) : Prop :=
  (∃ name, entries.get? "type" = some (.string name) ∧ Kind.ofName? name = some kind) ∨
    entries.get? "type" = none ∧ kind = .str

/-- A definition of a leaf that may have a range, as far as it is read before the range. -/
structure Grammar.Ranged (entries : Entries) (kind : Kind) : Prop where
  keyed : Heading.Keyed entries
  asked : IsOfKind entries kind
  supported : kind.supportsRange = true
  lacks : entries.Lacks ["include", "mapping", "map", "sequence", "seq", "matching"]
  flagged : entries.Flagged "allowempty"

/-- A leaf is as the keywords of a definition say. -/
structure Scalar.Declared (entries : Entries) (path : String) (leaf : Scalar) : Prop where
  kind : Grammar.IsOfKind entries leaf.kind
  filled : leaf.allowEmpty = false ↔ entries.get? "allowempty" = some (.bool false)
  range : Heading.rangeUnder path leaf.kind entries = .ok leaf.range
  allowed : Heading.allowedUnder path leaf.kind entries = .ok leaf.allowed
  pattern : Heading.patternUnder path leaf.kind entries = .ok leaf.pattern

namespace Scalar.Declared

variable {entries : Entries} {path : String} {leaf : Scalar} (declared : leaf.Declared entries path)

include declared

theorem range_of_get? {definition : Value} (ranged : entries.get? "range" = some definition) :
    leaf.kind.supportsRange = true ∧
      ∃ range, leaf.range = some range ∧ Heading.rangeOf path definition = .ok range := by
  obtain ⟨supported, range, isRead, same⟩ :=
    (Heading.rangeUnder_eq_ok_iff ranged).mp declared.range
  exact ⟨supported, range, same.symm, isRead⟩

theorem allowEmpty_of_unfilled (unfilled : entries.get? "allowempty" ≠ some (.bool false)) :
    leaf.allowEmpty = true := by
  rw [← Bool.not_eq_false]
  exact mt declared.filled.mp unfilled

theorem range_of_lacks (absent : entries.get? "range" = none) : leaf.range = none := by
  have found := declared.range
  rw [Heading.rangeUnder, absent] at found
  exact (Except.ok.inj found).symm

theorem allowed_of_lacks (absent : entries.get? "enum" = none) : leaf.allowed = [] := by
  have found := declared.allowed
  rw [Heading.allowedUnder, absent] at found
  exact (Except.ok.inj found).symm

theorem pattern_of_lacks (absent : entries.get? "pattern" = none) : leaf.pattern = none := by
  have found := declared.pattern
  rw [Heading.patternUnder, absent] at found
  exact (Except.ok.inj found).symm

section Single

variable (unfilled : entries.get? "allowempty" ≠ some (.bool false))

include unfilled

/-- A leaf whose only constraint is a range. -/
theorem ranged_only (alone : entries.Lacks ["enum", "pattern"]) :
    leaf = { Scalar.ofKind leaf.kind with range := leaf.range } := by
  have mayBeEmpty := declared.allowEmpty_of_unfilled unfilled
  have unlisted := declared.allowed_of_lacks (alone "enum" (by simp))
  have noPattern := declared.pattern_of_lacks (alone "pattern" (by simp))
  rw [Scalar.ofKind, ← mayBeEmpty, ← unlisted, ← noPattern]

/-- A leaf whose only constraint is a list of choices. -/
theorem listed_only (alone : entries.Lacks ["range", "pattern"]) :
    leaf = { Scalar.ofKind leaf.kind with allowed := leaf.allowed } := by
  have mayBeEmpty := declared.allowEmpty_of_unfilled unfilled
  have unbounded := declared.range_of_lacks (alone "range" (by simp))
  have noPattern := declared.pattern_of_lacks (alone "pattern" (by simp))
  rw [Scalar.ofKind, ← mayBeEmpty, ← unbounded, ← noPattern]

end Single

end Scalar.Declared

namespace Heading

variable {path keyword : String} {entries : Entries} {heading : Heading}

/-- The keywords that only leaves have. -/
def leafKeywords : List String := ["range", "enum", "pattern"]

theorem declared_of_ofScalar {kind : Kind} {hasChildren : Bool}
    (asked : Grammar.IsOfKind entries kind)
    (found : ofScalar path entries kind hasChildren = .ok heading) :
    ∃ leaf, heading = .scalar leaf ∧ leaf.Declared entries path := by
  obtain ⟨_, _, flagged, isFlag, _, range, isRange, allowed, isAllowed, pattern, isPattern, rfl⟩ :=
    ofScalar_eq_ok_iff.mp found
  refine ⟨_, rfl, asked, ?_, isRange, isAllowed, isPattern⟩
  rw [flag_eq_ok_iff.mp isFlag]
  cases flagged with
  | none => simp
  | some flag => simp

theorem declared_of_read (isLeaf : keyword ∈ leafKeywords)
    (present : entries.get? keyword ≠ none) (found : read path entries = .ok heading) :
    ∃ leaf, heading = .scalar leaf ∧ leaf.Declared entries path := by
  obtain ⟨_, ⟨target, _, found⟩ | ⟨_, fields, _, sequence, _, chosen⟩⟩ := read_eq_ok_iff.mp found
  · have unlisted : ∀ name ∈ leafKeywords, name ∉ includeKeywords := by decide
    exact absurd ((lacks_of_ofInclude found).2 keyword (unlisted keyword isLeaf)) present
  · cases chosen with
    | map _ found =>
        have rejected : leafKeywords ⊆ ["matching", "range", "enum", "pattern"] := by decide
        exact absurd ((ofMap_eq_ok_iff.mp found).2.1 keyword (rejected isLeaf)) present
    | seq _ found =>
        have rejected : leafKeywords ⊆ ["allowempty", "range", "enum", "pattern"] := by decide
        exact absurd ((ofSeq_eq_ok_iff.mp found).2.1 keyword (rejected isLeaf)) present
    | scalar kind typed found =>
        exact declared_of_ofScalar (typed.imp_right fun untyped => ⟨untyped.1, untyped.2.2.2⟩) found

/-- Without the keywords of other nodes, a definition is read as that of a leaf. -/
theorem read_eq_ofScalar {kind : Kind} (keyed : Keyed entries)
    (asked : Grammar.IsOfKind entries kind)
    (lacks : entries.Lacks ["include", "mapping", "map", "sequence", "seq"]) :
    read path entries = ofScalar path entries kind false := by
  have checked : checkKeywords path entries = .ok () := checkKeywords_eq_ok_iff_keyed.mpr keyed
  have noFields : either path "mapping" "map" entries = .ok none := either_of_lacks (by simp_all)
  have noSequence : either path "sequence" "seq" entries = .ok none :=
    either_of_lacks (by simp_all)
  have direct : entries.get? "include" = none := lacks _ List.mem_cons_self
  unfold read
  simp only [checked, direct, noFields, noSequence, bind, Except.bind, Option.isSome_none,
    Bool.or_false]
  obtain ⟨name, typed, named⟩ | ⟨untyped, rfl⟩ := asked
  · have apart := Kind.ne_of_ofName? named
    simp only [List.forall_mem_cons] at apart
    obtain ⟨notMap, notMapping, notSeq, notSequence, _⟩ := apart
    simp [typed, named]
  · simp [untyped]

/-- What is wrong with a range is the first thing wrong with such a definition. -/
theorem read_of_rangeOf_error {kind : Kind} {bounds : Value} {error : SchemaError}
    (ranged : Grammar.Ranged entries kind)
    (unfilled : entries.get? "allowempty" ≠ some (.bool false))
    (stored : entries.get? "range" = some bounds) (invalid : rangeOf path bounds = .error error) :
    read path entries = .error error := by
  have lacks := ranged.lacks
  rw [read_eq_ofScalar ranged.keyed ranged.asked (by simp_all)]
  have accepted : reject path kind.name ["matching"] entries = .ok () :=
    reject_eq_ok_iff.mpr (by simp_all)
  obtain ⟨flagged, isFlag⟩ := (flag_succeeds_iff path).mpr ranged.flagged
  have mayBeEmpty : flagged.getD true = true := by
    rw [flag_eq_ok_iff.mp isFlag] at unfilled
    cases flagged with
    | none => rfl
    | some flag => cases flag <;> simp at unfilled ⊢
  have refused : rangeUnder path kind entries = .error error := by
    simp [rangeUnder, stored, ranged.supported, invalid, Functor.map, Except.map]
  simp [ofScalar, accepted, isFlag, mayBeEmpty, refused, bind, Except.bind]

end Heading

namespace Definition

variable {scope : Scope} {before after : Catalog Node} {limit depth : Nat} {path keyword : String}
  {entries : Entries} {node : Node}

/-- A definition with a keyword of leaves builds the leaf that it declares. -/
theorem declared_of_build
    (built : scope.build (read limit path depth (.map entries)) before = .ok (node, after))
    {value : Value} (isLeaf : keyword ∈ Heading.leafKeywords)
    (present : entries.get? keyword = some value) :
    ∃ leaf, node = .scalar leaf ∧ leaf.Declared entries path := by
  by_cases deep : limit < depth
  · rw [read, if_pos deep] at built
    cases built
  · rw [read_map (Nat.le_of_not_lt deep)] at built
    cases found : Heading.read path entries with
    | error error =>
        rw [found] at built
        cases built
    | ok heading =>
        obtain ⟨leaf, rfl, declared⟩ := Heading.declared_of_read isLeaf (by simp [present]) found
        rw [found] at built
        cases built
        exact ⟨leaf, rfl, declared⟩

end Definition
end DocShape
