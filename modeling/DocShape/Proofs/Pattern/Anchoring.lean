import DocShape.Proofs.Pattern.Groups
import DocShape.Proofs.Pattern.Language

namespace DocShape.Pattern

/-! What becomes of a pattern between its anchors.

The pattern is pasted as text, so it can end the group around it with a parenthesis of its
own, or swallow the end of the group in a comment.
-/

/-- Reading a pattern by itself, up to a closing parenthesis that it has not opened. -/
def readAlone (source : String) : Option (Tree × Cursor) :=
  Reader.alternatives (source.toList.length + 1) [] [] ⟨source.toList, false, []⟩

/-- The pattern by itself is one, limits aside. -/
def Reads (source : String) (tree : Tree) : Prop :=
  ∃ finish, readAlone source = some (tree, finish) ∧ finish.rest = []

/-- A closing parenthesis ends more than the pattern has opened. -/
def Overcloses (source : String) : Prop :=
  ∃ tree finish, readAlone source = some (tree, finish) ∧ finish.rest ≠ []

/-- The closing text of the anchors becomes a part of the pattern. -/
def Swallows (source : String) : Prop := ∃ tree, Reads (source ++ ")$") tree

/-- The meaning of the pattern by itself. -/
def Means (source : String) (tree : Tree) (expression : Expression) : Prop :=
  Reads source tree ∧ ∃ flags, Expression.ofTree? .initial tree = some (expression, flags)

/-- The limits leave room for the anchors. -/
def Fits (tree : Tree) (expression : Expression) : Prop :=
  tree.depth + 2 ≤ Tree.depthLimit ∧ expression.size + 3 ≤ Expression.sizeLimit

theorem read?_eq_some_iff {source : String} {tree : Tree} :
    Tree.read? source = some tree ↔ Reads source tree ∧ tree.depth ≤ Tree.depthLimit := by
  have opened : Tree.read? source = (readAlone source).bind fun found =>
      if found.2.rest.isEmpty && found.1.depth ≤ Tree.depthLimit then some found.1 else none := rfl
  rw [opened, Option.bind_eq_some_iff]
  constructor
  · rintro ⟨⟨found, finish⟩, read, done⟩
    split at done
    case isTrue holds =>
      cases done
      simp only [Bool.and_eq_true, List.isEmpty_iff, decide_eq_true_eq] at holds
      exact ⟨⟨finish, read, holds.1⟩, holds.2⟩
    case isFalse => cases done
  · rintro ⟨⟨finish, read, ends⟩, shallow⟩
    exact ⟨_, read, by simp [ends, shallow]⟩

/-- Whether the pattern by itself is one that has a meaning. -/
def isPattern (source : String) : Bool :=
  (readAlone source).any fun found =>
    found.2.rest.isEmpty && (Expression.ofTree? .initial found.1).isSome

theorem isPattern_iff {source : String} :
    isPattern source = true ↔ ∃ tree expression, Means source tree expression := by
  simp only [isPattern, Option.any_eq_true, Bool.and_eq_true, List.isEmpty_iff,
    Option.isSome_iff_exists, Means, Reads, Prod.exists]
  constructor
  · rintro ⟨tree, finish, read, ends, expression, flags, means⟩
    exact ⟨tree, expression, ⟨finish, read, ends⟩, flags, means⟩
  · rintro ⟨tree, expression, ⟨finish, read, ends⟩, flags, means⟩
    exact ⟨tree, finish, read, ends, expression, flags, means⟩

/-- The tree of a pattern between its anchors. -/
def Tree.anchored (inner : Tree) : Tree :=
  .concat [.anchor .lineStart, .group ⟨[], []⟩ inner, .anchor .lineEnd]

theorem Tree.depth_anchored (inner : Tree) : inner.anchored.depth = inner.depth + 2 := by
  simp [Tree.anchored, Tree.depth, Tree.depths]

def Expression.anchored (inner : Expression) : Expression :=
  .sequence (.assertion .textStart) (.sequence inner (.sequence (.assertion .textEnd) .empty))

theorem Expression.size_anchored (inner : Expression) : inner.anchored.size = inner.size + 3 := by
  simp only [Expression.anchored, Expression.size]
  omega

theorem Expression.ofTree?_anchored (inner : Tree) :
    Expression.ofTree? .initial inner.anchored =
      (Expression.ofTree? .initial inner).map fun found => (found.1.anchored, .initial) := by
  have unchanged : Flags.initial.apply ⟨[], []⟩ = .initial := rfl
  simp only [Tree.anchored, Expression.ofTree?, Expression.ofParts?, Option.bind_eq_bind,
    Option.bind_some, unchanged]
  cases Expression.ofTree? .initial inner <;> rfl

namespace Reader

theorem groupStart_anchored (text : List Char) :
    groupStart ⟨'(' :: '?' :: ':' :: text, false, []⟩ =
      some (.group ⟨[], []⟩, ⟨text, false, []⟩) := rfl

/-- The end of the anchors, behind what was read between them. -/
def closeAnchors (fuel : Nat) (inner : Tree) : Reader Tree := do
  expect ')'
  setIgnoreBlanks false
  alternatives fuel [] [.group ⟨[], []⟩ inner, .anchor .lineStart]

theorem alternatives_anchored (fuel : Nat) (text : List Char) :
    alternatives (fuel + 2) [] [] ⟨'^' :: '(' :: '?' :: ':' :: text, false, []⟩ =
      (alternatives fuel [] [] >>= closeAnchors fuel) ⟨text, false, []⟩ := by
  have first : alternatives (fuel + 2) [] [] ⟨'^' :: '(' :: '?' :: ':' :: text, false, []⟩ =
      alternatives (fuel + 1) [] [.anchor .lineStart] ⟨'(' :: '?' :: ':' :: text, false, []⟩ := rfl
  have second : alternatives (fuel + 1) [] [.anchor .lineStart]
        ⟨'(' :: '?' :: ':' :: text, false, []⟩ =
      groupRound fuel [] [.anchor .lineStart] false ⟨'(' :: '?' :: ':' :: text, false, []⟩ := rfl
  rw [first, second]
  change (groupStart >>= _) _ = _
  rw [bind_apply, groupStart_anchored]
  rfl

theorem closeAnchors_closing (fuel : Nat) (inner : Tree) {before : Cursor}
    (atClosing : before.rest = closing) :
    closeAnchors (fuel + 2) inner before = some (inner.anchored, ⟨[], false, before.names⟩) := by
  obtain ⟨rest, ignoreBlanks, names⟩ := before
  cases atClosing
  rfl

theorem closeAnchors_past {fuel : Nat} {inner : Tree} {before : Cursor}
    (isPast : past inner before) : closeAnchors fuel inner before = none := by
  obtain ⟨rest, ignoreBlanks, names⟩ := before
  rcases List.suffix_cons_iff.mp isPast with rfl | nothing
  · rfl
  · cases List.suffix_nil.mp nothing
    rfl

end Reader

/-- Rounds enough for a pattern and what its anchors add to it. -/
theorem readAlone_eq (source : String) :
    readAlone source =
      Reader.alternatives (source.toList.length + 5) [] [] ⟨source.toList, false, []⟩ :=
  Reader.alternatives_eq_of_lt (Nat.lt_succ_self _) (by simp)

theorem readAlone_closed (source : String) :
    readAlone (source ++ ")$") =
      Reader.alternatives (source.toList.length + 5) [] []
        (Cursor.closed ⟨source.toList, false, []⟩) := by
  have text : (source ++ ")$").toList = source.toList ++ Reader.closing := by
    simp [Reader.closing]
  rw [readAlone, text, Cursor.closed]
  exact Reader.alternatives_eq_of_lt (by simp [Reader.closing]) (by simp [Reader.closing])

theorem readAlone_anchored (source : String) :
    readAlone (anchored source) =
      (readAlone (source ++ ")$")).bind fun found =>
        Reader.closeAnchors (source.toList.length + 5) found.1 found.2 := by
  have text : (anchored source).toList =
      '^' :: '(' :: '?' :: ':' :: (source.toList ++ Reader.closing) := by
    simp [anchored, Reader.closing]
  have rounds : ('^' :: '(' :: '?' :: ':' :: (source.toList ++ Reader.closing)).length + 1 =
      source.toList.length + 5 + 2 := by
    simp [Reader.closing]
  rw [readAlone, text, rounds, Reader.alternatives_anchored, readAlone_closed]
  rfl

/-- With the closing text behind, a pattern reads as it does alone, or a comment at its end
takes that text as well, or less of the text is left than the anchors need. -/
theorem readAlone_follows (source : String) :
    readAlone (source ++ ")$") = (readAlone source).map (Prod.map id Cursor.closed) ∨
      (∀ tree finish, readAlone source = some (tree, finish) →
        finish.rest = [] ∧ '#' ∈ source.toList ∧ readAlone (source ++ ")$") = some (tree, finish)) ∧
      ∀ tree finish, readAlone (source ++ ")$") = some (tree, finish) → Reader.past tree finish := by
  rw [readAlone_closed, readAlone_eq]
  cases (Reader.steady_alternatives _ [] []).follows ⟨source.toList, false, []⟩ trivial with
  | alike same => exact .inl same
  | parted spent beyond => exact .inr ⟨spent, beyond⟩

section Sources

variable {source : String} {inner tree : Tree} {finish : Cursor}

theorem closed_rest (ends : finish.rest = []) : finish.closed.rest = Reader.closing := by
  rw [Cursor.closed, ends]
  rfl

/-- A pattern swallows the closing text in a comment, and only there. -/
theorem swallows_iff (reads : Reads source inner) :
    Swallows source ↔ '#' ∈ source.toList ∧ readAlone (source ++ ")$") = readAlone source := by
  obtain ⟨finish, read, ends⟩ := reads
  constructor
  · rintro ⟨other, swallowed, readSwallowed, spent⟩
    rcases readAlone_follows source with same | ⟨spent, _⟩
    · rw [same, read] at readSwallowed
      cases readSwallowed
      cases (closed_rest ends).symm.trans spent
    · obtain ⟨_, comment, same⟩ := spent _ _ read
      exact ⟨comment, same.trans read.symm⟩
  · rintro ⟨_, same⟩
    exact ⟨inner, finish, same.trans read, ends⟩

theorem reads_anchored (reads : Reads source inner) (outside : ¬ Swallows source) :
    Reads (anchored source) inner.anchored := by
  obtain ⟨finish, read, ends⟩ := reads
  rcases readAlone_follows source with same | ⟨spent, _⟩
  · refine ⟨⟨[], false, finish.names⟩, ?_, rfl⟩
    rw [readAlone_anchored, same, read, Option.map_some, Option.bind_some]
    exact Reader.closeAnchors_closing _ _ (closed_rest ends)
  · exact absurd ⟨inner, finish, (spent _ _ read).2.2, ends⟩ outside

theorem reads_of_anchored (reads : Reads (anchored source) tree) (opened : ¬ Overcloses source) :
    ∃ inner, Reads source inner ∧ ¬ Swallows source ∧ tree = inner.anchored := by
  obtain ⟨last, read, _⟩ := reads
  rw [readAlone_anchored, Option.bind_eq_some_iff] at read
  obtain ⟨⟨found, finish⟩, readClosed, closes⟩ := read
  rcases readAlone_follows source with same | ⟨_, beyond⟩
  · rw [same, Option.map_eq_some_iff] at readClosed
    obtain ⟨⟨inner, ends⟩, readInner, ⟨⟩⟩ := readClosed
    have nothing : ends.rest = [] := by
      by_contra some
      exact opened ⟨inner, ends, readInner, some⟩
    refine ⟨inner, ⟨ends, readInner, nothing⟩, fun swallows => ?_, ?_⟩
    · have swallowed := ((swallows_iff ⟨ends, readInner, nothing⟩).mp swallows).2
      rw [same, readInner] at swallowed
      have twice : ends.closed.rest = ends.rest := by
        cases ends
        simpa [Cursor.closed] using swallowed
      cases (closed_rest nothing).symm.trans (twice.trans nothing)
    · have completed := Reader.closeAnchors_closing (source.toList.length + 3) inner
        (closed_rest nothing)
      cases completed.symm.trans closes
      rfl
  · cases (Reader.closeAnchors_past (beyond _ _ readClosed)).symm.trans closes

theorem not_overcloses_of_reads (reads : Reads source inner) : ¬ Overcloses source := by
  obtain ⟨finish, read, ends⟩ := reads
  rintro ⟨_, _, other, some⟩
  cases read.symm.trans other
  exact some ends

end Sources

theorem compile?_eq_some_iff {source : String} {pattern : Pattern} :
    compile? source = some pattern ↔
      ∃ tree, Reads (anchored source) tree ∧ tree.depth ≤ Tree.depthLimit ∧
        ∃ expression flags, Expression.ofTree? .initial tree = some (expression, flags) ∧
          expression.size ≤ Expression.sizeLimit ∧ pattern = ⟨source, expression⟩ := by
  simp only [compile?, Option.bind_eq_bind, Option.bind_eq_some_iff, read?_eq_some_iff, and_assoc,
    Prod.exists]
  refine exists_congr fun tree => and_congr_right fun _ => and_congr_right fun _ =>
    exists_congr fun expression => exists_congr fun flags => and_congr_right fun _ => ?_
  constructor
  · intro done
    split at done
    case isTrue small =>
      cases done
      exact ⟨small, rfl⟩
    case isFalse => cases done
  · rintro ⟨small, rfl⟩
    exact if_pos small

/-- A pattern that closes no more than it opens is accepted only for what it means between
the anchors. -/
theorem compile?_eq_some_iff_means {source : String} (opened : ¬ Overcloses source)
    {pattern : Pattern} :
    compile? source = some pattern ↔
      ∃ tree expression, Means source tree expression ∧ Fits tree expression ∧
        ¬ Swallows source ∧ pattern = ⟨source, expression.anchored⟩ := by
  rw [compile?_eq_some_iff]
  constructor
  · rintro ⟨_, readsAnchored, shallow, expression, flags, means, small, rfl⟩
    obtain ⟨inner, reads, outside, rfl⟩ := reads_of_anchored readsAnchored opened
    rw [Expression.ofTree?_anchored, Option.map_eq_some_iff] at means
    obtain ⟨⟨innerExpression, innerFlags⟩, means, same⟩ := means
    cases same
    rw [Tree.depth_anchored] at shallow
    rw [Expression.size_anchored] at small
    exact ⟨inner, innerExpression, ⟨reads, innerFlags, means⟩, ⟨shallow, small⟩, outside, rfl⟩
  · rintro ⟨inner, expression, ⟨reads, flags, means⟩, ⟨shallow, small⟩, outside, rfl⟩
    refine ⟨inner.anchored, reads_anchored reads outside, ?_, expression.anchored, .initial, ?_, ?_,
      rfl⟩
    · rwa [Tree.depth_anchored]
    · rw [Expression.ofTree?_anchored, means, Option.map_some]
    · rwa [Expression.size_anchored]

theorem isMatch_anchored_iff {source text : String} {expression : Expression} :
    isMatch ⟨source, expression.anchored⟩ text = true ↔
      expression.Spans text.toList 0 text.toList.length :=
  Expression.isFoundIn_anchored_iff

/-- A pattern by itself is accepted between its anchors unless it swallows their end, and
what is accepted is a pattern by itself and matches the whole of a text, unless it closes the
group around it. -/
theorem compile?_iff_means (source : String) :
    (∀ tree expression, Means source tree expression →
      ((∃ pattern, compile? source = some pattern) ↔ Fits tree expression ∧ ¬ Swallows source)) ∧
    ∀ pattern, compile? source = some pattern → Overcloses source ∨
      ∃ tree expression, Means source tree expression ∧
        ∀ text, pattern.isMatch text = true ↔ expression.Spans text.toList 0 text.toList.length := by
  constructor
  · rintro tree expression ⟨⟨finish, read, ends⟩, flags, means⟩
    have opened := not_overcloses_of_reads ⟨finish, read, ends⟩
    simp only [compile?_eq_some_iff_means opened]
    constructor
    · rintro ⟨_, other, otherExpression, ⟨⟨last, readOther, _⟩, _, otherMeans⟩, fits, outside, _⟩
      cases read.symm.trans readOther
      cases means.symm.trans otherMeans
      exact ⟨fits, outside⟩
    · rintro ⟨fits, outside⟩
      exact ⟨_, tree, expression, ⟨⟨finish, read, ends⟩, flags, means⟩, fits, outside, rfl⟩
  · intro pattern compiled
    by_cases overcloses : Overcloses source
    · exact .inl overcloses
    · obtain ⟨tree, expression, means, _, _, rfl⟩ :=
        (compile?_eq_some_iff_means overcloses).mp compiled
      exact .inr ⟨tree, expression, means, fun text => isMatch_anchored_iff⟩

theorem compile?_iff_means_alternation :
    (∃ pattern, compile? "a|b" = some pattern) ∧
      ∀ pattern, compile? "a|b" = some pattern →
        ∃ tree expression, Means "a|b" tree expression ∧ ∀ text,
          pattern.isMatch text = true ↔ expression.Spans text.toList 0 text.toList.length := by
  have reads : Reads "a|b" (.alternation [.literal ⟨'a', false⟩, .literal ⟨'b', false⟩]) :=
    ⟨_, rfl, rfl⟩
  have outside : ¬ Swallows "a|b" := fun swallows =>
    absurd ((swallows_iff reads).mp swallows).1 (by decide)
  obtain ⟨expression, means, fits⟩ : ∃ expression,
      Means "a|b" (.alternation [.literal ⟨'a', false⟩, .literal ⟨'b', false⟩]) expression ∧
        Fits (.alternation [.literal ⟨'a', false⟩, .literal ⟨'b', false⟩]) expression :=
    ⟨_, ⟨reads, _, rfl⟩, by unfold Fits; decide⟩
  exact ⟨((compile?_iff_means "a|b").1 _ _ means).mpr ⟨fits, outside⟩, fun pattern compiled =>
    ((compile?_iff_means "a|b").2 pattern compiled).resolve_left (not_overcloses_of_reads reads)⟩

/-- The one closes the group around it and matches more than the whole of a text; the other,
a pattern by itself, is refused for its comment. -/
theorem compile?_takes_anchors_apart :
    (∃ pattern, compile? "a)|(?:b" = some pattern ∧ pattern.isMatch "ax" = true) ∧
      (¬ ∃ tree expression, Means "a)|(?:b" tree expression) ∧
      (∃ tree expression, Means "(?x)a #c" tree expression) ∧
      ∀ pattern, compile? "(?x)a #c" ≠ some pattern := by
  have matchesMore : ((compile? "a)|(?:b").any fun pattern => pattern.isMatch "ax") = true := by
    decide +kernel
  have refused : (compile? "(?x)a #c").isNone = true := by decide +kernel
  refine ⟨Option.any_eq_true _ _ |>.mp matchesMore, ?_, isPattern_iff.mp (by decide +kernel), ?_⟩
  · rw [← isPattern_iff]
    decide +kernel
  · intro pattern compiled
    rw [compiled] at refused
    cases refused

end DocShape.Pattern
