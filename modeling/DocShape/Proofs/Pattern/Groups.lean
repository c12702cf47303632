import DocShape.Proofs.Pattern.Classes

namespace DocShape.Pattern.Reader

/-! Reading groups, repetitions and alternatives with the closing text behind.

Alternatives end before a closing parenthesis as they end where nothing is left.
-/

theorem flagChange_suffix {clearing : Bool} {change found : FlagChange} {text after : List Char}
    (read : flagChange clearing change text = some (found, after)) : after <:+ text ∧ after ≠ [] := by
  induction text generalizing clearing change with
  | nil => cases read
  | cons character rest inRest =>
      have later {clearing : Bool} {change : FlagChange}
          (read : flagChange clearing change rest = some (found, after)) :
          after <:+ character :: rest ∧ after ≠ [] :=
        (inRest read).imp_left fun shorter => shorter.trans (List.suffix_cons _ _)
      rw [flagChange] at read
      split at read
      · split at read <;> cases read
        exact ⟨List.suffix_refl _, List.cons_ne_nil _ _⟩
      · split at read
        · split at read
          · cases read
          · exact later read
        · cases named : flag? character with
          | none => simp [named] at read
          | some flag =>
              simp only [named] at read
              split at read
              · cases read
              · split at read <;> exact later read

/-- Flags that do not end in the pattern itself end at the closing parenthesis. -/
theorem flagChange_closing (clearing : Bool) (change : FlagChange) (text : List Char) :
    flagChange clearing change (text ++ closing) =
        (flagChange clearing change text).map (Prod.map id (· ++ closing)) ∨
      flagChange clearing change text = none ∧
        ∀ found after, flagChange clearing change (text ++ closing) = some (found, after) →
          after = closing := by
  induction text generalizing clearing change with
  | nil =>
      refine .inr ⟨rfl, fun found after read => ?_⟩
      have ends : flagChange clearing change closing =
          if clearing && change.cleared.isEmpty then none else some (change, closing) := rfl
      rw [List.nil_append, ends] at read
      split at read <;> cases read
      rfl
  | cons character rest inRest =>
      simp only [List.cons_append, flagChange]
      by_cases ends : character = ':' ∨ character = ')'
      · simp only [if_pos ends]
        split <;> exact .inl rfl
      by_cases dash : character = '-'
      · simp only [if_neg ends, if_pos dash]
        split
        · exact .inl rfl
        · exact inRest _ _
      simp only [if_neg ends, if_neg dash]
      cases flag? character with
      | none => exact .inl rfl
      | some flag =>
          dsimp only
          split
          · exact .inl rfl
          · split <;> exact inRest _ _

theorem groupName_eq (before : Cursor) :
    groupName before =
      (splitFirst? ['>'] before.rest).bind fun found =>
        if isGroupName found.1 && !before.names.contains (String.ofList found.1) then
          some ((), { before with rest := found.2, names := String.ofList found.1 :: before.names })
        else none := by
  have reads : rest before = some (before.rest, before) := rfl
  rw [groupName, bind_apply, reads, Option.bind_some]
  cases splitFirst? ['>'] before.rest with
  | none => rfl
  | some found =>
      change (if _ then _ else _ : Reader Unit) before = if _ then _ else _
      split <;> rfl

theorem steady_groupName : Steady anywhere 0 past groupName where
  drops before result after done := by
    rw [groupName_eq] at done
    obtain ⟨found, isSplit, done⟩ := Option.bind_eq_some_iff.mp done
    split at done <;> cases done
    exact splitFirst?_suffix isSplit
  follows before _ := by
    refine .alike ?_
    rw [groupName_eq, groupName_eq, Cursor.closed]
    dsimp only
    rw [splitFirst?_closing (by decide)]
    cases splitFirst? ['>'] before.rest with
    | none => rfl
    | some found =>
        simp only [Option.map_some, Option.bind_some, Prod.map_fst, Prod.map_snd, id]
        split <;> rfl

theorem steady_anyAccept {texts : List String} (without : ∀ text ∈ texts, ')' ∉ text.toList) :
    Steady anywhere 0 past (texts.anyM accept) := by
  induction texts with
  | nil => exact steady_pure _
  | cons text texts inRest =>
      refine (steady_accept (without text List.mem_cons_self)).bind fun found => ?_
      cases found with
      | true => exact steady_pure _
      | false => exact inRest fun text member => without text (List.mem_cons_of_mem _ member)

/-- What flags start, by the character behind them. -/
def flaggedStart? (change : FlagChange) (next : Option Char) : Option GroupStart :=
  if next = some ':' then some (.group change)
  else if change.set.isEmpty && change.cleared.isEmpty then none
  else some (.flags change)

/-- The start of a group from its flags on. -/
def groupFlags : Reader GroupStart := do
  match flagChange false ⟨[], []⟩ (← rest) with
  | none => failure
  | some (change, after) =>
      setRest (after.drop 1)
      if after.head? = some ':' then return .group change
      else if change.set.isEmpty && change.cleared.isEmpty then failure
      else return .flags change

theorem groupFlags_eq (before : Cursor) :
    groupFlags before =
      (flagChange false ⟨[], []⟩ before.rest).bind fun found =>
        (flaggedStart? found.1 found.2.head?).map fun start =>
          (start, { before with rest := found.2.drop 1 }) := by
  have opened : groupFlags before =
      (match flagChange false ⟨[], []⟩ before.rest with
        | none => failure
        | some (change, after) =>
            setRest (after.drop 1) >>= fun _ =>
              if after.head? = some ':' then pure (.group change)
              else if change.set.isEmpty && change.cleared.isEmpty then failure
              else pure (.flags change) : Reader GroupStart) before := rfl
  rw [opened]
  cases flagChange false ⟨[], []⟩ before.rest with
  | none => rfl
  | some found =>
      obtain ⟨change, after⟩ := found
      simp only [bind_apply, Option.bind_some, flaggedStart?]
      split
      · rfl
      · split <;> rfl

theorem steady_groupFlags : Steady anywhere 0 past groupFlags where
  drops before result after done := by
    rw [groupFlags_eq] at done
    obtain ⟨found, flags, done⟩ := Option.bind_eq_some_iff.mp done
    obtain ⟨start, _, same⟩ := Option.map_eq_some_iff.mp done
    cases same
    exact (List.drop_suffix _ _).trans (flagChange_suffix flags).1
  follows before _ := by
    have alone := groupFlags_eq before
    have behind := groupFlags_eq before.closed
    rcases flagChange_closing false ⟨[], []⟩ before.rest with same | ⟨none, ends⟩
    · refine .alike ?_
      rw [alone, behind, Cursor.closed, same]
      cases flags : flagChange false ⟨[], []⟩ before.rest with
      | none => rfl
      | some found =>
          obtain ⟨change, after⟩ := found
          rcases after with _ | ⟨first, after⟩
          · exact absurd rfl (flagChange_suffix flags).2
          · simp only [Option.map_some, Option.bind_some, Prod.map_fst, Prod.map_snd, id,
              List.cons_append, List.head?_cons]
            cases flaggedStart? change (some first) <;> rfl
    · refine .parted (fun start after read => ?_) fun start after read => ?_
      · rw [alone, none] at read
        cases read
      · rw [behind] at read
        obtain ⟨found, flags, read⟩ := Option.bind_eq_some_iff.mp read
        obtain ⟨_, _, same⟩ := Option.map_eq_some_iff.mp read
        cases same
        change found.2.drop 1 <:+ ['$']
        rw [ends _ _ flags]
        exact List.suffix_refl _

theorem steady_groupStart : Steady anywhere 1 past groupStart := by
  refine (steady_expect '(').bind fun _ => steady_skipBlanks.bind fun _ => ?_
  refine (steady_anyAccept (by decide)).bind fun refused => ?_
  refine .ite steady_failure ?_
  have opens : Steady anywhere 0 past (accept "?P<" <||> accept "?<") := by
    refine (steady_accept (by decide)).bind fun found => ?_
    cases found with
    | true => exact steady_pure _
    | false => exact steady_accept (by decide)
  refine opens.bind fun named => .ite (steady_groupName.bind fun _ => steady_pure _) ?_
  refine (steady_accept (by decide)).bind fun flagged => .ite steady_groupFlags (steady_pure _)

theorem steady_setIgnoreBlanks (ignoreBlanks : Bool) :
    Steady anywhere 0 past (setIgnoreBlanks ignoreBlanks) where
  drops := by
    rintro before _ _ ⟨⟩
    exact List.suffix_refl _
  follows _ _ := .alike rfl

theorem steady_lazyMark : Steady anywhere 0 past lazyMark :=
  .peek? (by decide) steady_advance.uncounted (steady_pure _)

/-- The end of a count, once both of its numbers are read. -/
def countEnd (least : Nat) (most : Option Nat) : Reader (Nat × Option Nat) := do
  if (← current) ≠ '\x7d' then failure
  step
  lazyMark
  match most with
  | some bound => if bound < least then failure else return (least, most)
  | none => return (least, most)

theorem steady_countEnd (least : Nat) (most : Option Nat) :
    Steady anywhere 0 past (countEnd least most) := by
  refine .current (fun _ => .ite steady_failure ?_) fun _ _ _ _ done => ?_
  · refine steady_step.uncounted.bind fun _ => steady_lazyMark.bind fun _ => ?_
    cases most with
    | some bound => exact .ite steady_failure (steady_pure _)
    | none => exact steady_pure _
  · cases done

theorem steady_counted : Steady inside 1 past counted := by
  refine steady_step.bind fun _ => steady_decimal.bind fun least => ?_
  refine .peek? (by decide) ?_ ((steady_pure _).bind (steady_countEnd least))
  refine steady_step.uncounted.bind fun _ => .peek? (by decide) ?_ ?_
  · exact (steady_pure _).bind (steady_countEnd least)
  · exact steady_decimal.bind fun _ => (steady_pure _).bind (steady_countEnd least)

theorem steady_repetition : Steady anywhere 1 past repetition := by
  have marked (mark : Char) : Steady inside 1 past (do
      advance
      lazyMark
      return (if mark = '+' then 1 else 0, if mark = '?' then some 1 else none)) :=
    steady_advance.bind fun _ => steady_lazyMark.bind fun _ => steady_pure _
  refine .current (fun mark => .ite steady_counted (marked mark)) ?_
  intro before result after atClosing done
  have shorter := (marked ')').drops _ _ _ done
  rwa [atClosing] at shorter

theorem steady_primitive : Steady anywhere 1 hanging primitive := by
  have single (tree : Tree) : Steady inside 1 hanging (do advance; return tree) :=
    (steady_advance.bind fun _ => steady_pure _).mono fun _ _ => .inl
  refine .current (fun first => ?_) ?_
  · split
    · exact steady_escape.restrict
    all_goals exact single _
  · rintro ⟨rest, ignoreBlanks, names⟩ result after atClosing done
    cases atClosing
    cases done
    exact .inl (List.suffix_refl _)

/-- The alternatives read so far. -/
def finished (branches parts : List Tree) : Tree :=
  Tree.ofBranches ((Tree.ofParts parts.reverse :: branches).reverse)

/-- A group from its start on; blanks are treated after it as they were before it. -/
def groupRound (fuel : Nat) (branches parts : List Tree) (before : Bool) : Reader Tree := do
  match ← groupStart with
  | .flags change =>
      setIgnoreBlanks (blanksAfter change before)
      alternatives fuel branches (.flags change :: parts)
  | .group change =>
      setIgnoreBlanks (blanksAfter change before)
      let inner ← alternatives fuel [] []
      expect ')'
      setIgnoreBlanks before
      alternatives fuel branches (.group change inner :: parts)

/-- A mark of repetition, which applies to the part before it. -/
def repetitionRound (fuel : Nat) (branches parts : List Tree) : Reader Tree :=
  match parts with
  | part :: earlier =>
      if part.isRepeatable then do
        let (least, most) ← repetition
        alternatives fuel branches (.repetition part least most :: earlier)
      else failure
  | [] => failure

/-- One round of alternatives, once blanks are passed and the text left is seen. -/
def alternativesRound (fuel : Nat) (branches parts : List Tree) (left : List Char) : Reader Tree :=
  match left with
  | [] => return finished branches parts
  | ')' :: _ => return finished branches parts
  | '|' :: _ => do
      advance
      alternatives fuel (Tree.ofParts parts.reverse :: branches) []
  | '(' :: _ => do groupRound fuel branches parts (← get).ignoreBlanks
  | '[' :: _ => do
      let part ← classTree
      alternatives fuel branches (part :: parts)
  | first :: _ =>
      if ['?', '*', '+', '\x7b'].contains first then repetitionRound fuel branches parts
      else do
        let part ← primitive
        alternatives fuel branches (part :: parts)

theorem alternativesRound_part (fuel : Nat) (branches parts : List Tree) {first : Char}
    (noMark : first ∉ [')', '|', '(', '[']) (text : List Char) :
    alternativesRound fuel branches parts (first :: text) =
      if ['?', '*', '+', '\x7b'].contains first then repetitionRound fuel branches parts
      else primitive >>= fun part => alternatives fuel branches (part :: parts) := by
  simp only [List.mem_cons, List.not_mem_nil, or_false, not_or] at noMark
  obtain ⟨noParenthesis, noBranch, noGroup, noClass⟩ := noMark
  unfold alternativesRound
  split
  case h_1 same => cases same
  case h_2 same => exact absurd (List.cons.inj same).1 noParenthesis
  case h_3 same => exact absurd (List.cons.inj same).1 noBranch
  case h_4 same => exact absurd (List.cons.inj same).1 noGroup
  case h_5 same => exact absurd (List.cons.inj same).1 noClass
  case h_6 same =>
    cases same
    rfl

theorem alternatives_succ (fuel : Nat) (branches parts : List Tree) :
    alternatives (fuel + 1) branches parts =
      skipBlanks >>= fun _ => rest >>= alternativesRound fuel branches parts := by
  unfold alternatives
  rfl

/-- The first character decides, and the closing parenthesis ends as nothing does. -/
theorem alternativesRound_closing (fuel : Nat) (branches parts : List Tree) (left : List Char) :
    alternativesRound fuel branches parts (left ++ closing) =
      alternativesRound fuel branches parts left := by
  rcases left with _ | ⟨first, text⟩
  · rfl
  by_cases isMark : first ∈ [')', '|', '(', '[']
  · simp only [List.mem_cons, List.not_mem_nil, or_false] at isMark
    rcases isMark with rfl | rfl | rfl | rfl <;> rfl
  · rw [List.cons_append, alternativesRound_part _ _ _ isMark, alternativesRound_part _ _ _ isMark]

theorem repetition_atBraces {before : Cursor} (isBraces : atBraces before) :
    repetition before = none := by
  obtain ⟨rest, ignoreBlanks, names⟩ := before
  obtain ⟨text, rfl⟩ := List.head?_eq_some_iff.mp isBraces.1
  exact isBraces.2

theorem repetitionRound_atBraces {fuel : Nat} {branches parts : List Tree} {before : Cursor}
    (isBraces : atBraces before) : repetitionRound fuel branches parts before = none := by
  unfold repetitionRound
  split
  · split
    · rw [bind_apply, repetition_atBraces isBraces]
      rfl
    · rfl
  · rfl

theorem alternatives_atBraces {fuel : Nat} {branches parts : List Tree} {before : Cursor}
    (isBraces : atBraces before) : alternatives fuel branches parts before = none := by
  rcases fuel with _ | fuel
  · rfl
  obtain ⟨rest, ignoreBlanks, names⟩ := before
  obtain ⟨text, rfl⟩ := List.head?_eq_some_iff.mp isBraces.1
  have skips : skipBlanks ⟨'\x7b' :: text, ignoreBlanks, names⟩ =
      some ((), ⟨'\x7b' :: text, ignoreBlanks, names⟩) := by
    cases ignoreBlanks <;> rfl
  rw [alternatives_succ, bind_apply, skips]
  exact repetitionRound_atBraces isBraces

theorem steady_groupRound {fuel : Nat}
    (inAlternatives : ∀ branches parts, Steady anywhere 0 past (alternatives fuel branches parts))
    (branches parts : List Tree) (before : Bool) :
    Steady anywhere 1 past (groupRound fuel branches parts before) := by
  refine steady_groupStart.bind fun start => ?_
  cases start with
  | flags change => exact (steady_setIgnoreBlanks _).bind fun _ => inAlternatives _ _
  | group change =>
      exact (steady_setIgnoreBlanks _).bind fun _ => (inAlternatives _ _).bind fun _ =>
        (steady_expect _).uncounted.bind fun _ => (steady_setIgnoreBlanks _).bind fun _ =>
          inAlternatives _ _

theorem steady_repetitionRound {fuel : Nat}
    (inAlternatives : ∀ branches parts, Steady anywhere 0 past (alternatives fuel branches parts))
    (branches parts : List Tree) : Steady anywhere 1 past (repetitionRound fuel branches parts) := by
  unfold repetitionRound
  split
  · exact .ite (steady_repetition.bind fun _ => inAlternatives _ _) steady_failure
  · exact steady_failure

theorem steady_alternativesRound {fuel : Nat}
    (inAlternatives : ∀ branches parts, Steady anywhere 0 past (alternatives fuel branches parts))
    (branches parts : List Tree) (left : List Char) :
    Steady inside 0 past (alternativesRound fuel branches parts left) := by
  unfold alternativesRound
  split
  · exact steady_pure _
  · exact steady_pure _
  · exact steady_advance.uncounted.bind fun _ => inAlternatives _ _
  · have round := steady_groupRound inAlternatives branches parts
    exact .get (fun before _ _ done => (round before.ignoreBlanks).shrinks done)
      fun before _ => ((round before.ignoreBlanks).follows before trivial).congr rfl rfl
  · exact (steady_classTree.uncounted.bind fun _ => inAlternatives _ _).restrict
  · refine .ite (steady_repetitionRound inAlternatives _ _).uncounted.restrict ?_
    refine (steady_primitive.uncounted.bindOnward (fun _ => inAlternatives _ _) ?_).restrict
    rintro part between result after (isPast | ⟨_, isBraces⟩) done
    · exact ((inAlternatives _ _).shrinks done).trans isPast
    · rw [alternatives_atBraces isBraces] at done
      cases done

theorem steady_alternatives (fuel : Nat) (branches parts : List Tree) :
    Steady anywhere 0 past (alternatives fuel branches parts) := by
  induction fuel generalizing branches parts with
  | zero => exact steady_failure
  | succ fuel inAlternatives =>
      rw [alternatives_succ]
      have round := steady_alternativesRound inAlternatives branches parts
      refine steady_skipBlanks.bind fun _ => ⟨fun before _ _ done => ?_, ?_⟩
      · exact (round before.rest).shrinks done
      · rintro ⟨text, ignoreBlanks, names⟩ _
        have same := alternativesRound_closing fuel branches parts text
        rcases text with _ | ⟨first, text⟩
        · exact .alike rfl
        · exact ((round (first :: text)).follows _ (inside_cons _ _ _ _)).congr rfl
            (congrFun same _)

section Rounds

variable {fuel other : Nat} {text : List Char}

/-- Further on in a text, both numbers of rounds are enough. -/
def SameWithin (text : List Char) (fuel other : Nat) : Prop :=
  ∀ branches parts (before : Cursor), before.rest <:+ text →
    alternatives fuel branches parts before = alternatives other branches parts before

theorem groupRound_eq (same : SameWithin text fuel other) {before : Cursor}
    (isBefore : before.rest.drop 1 <:+ text) (branches parts : List Tree) (ignoreBlanks : Bool) :
    groupRound fuel branches parts ignoreBlanks before =
      groupRound other branches parts ignoreBlanks before := by
  refine bind_eq_bind rfl fun start opened isOpened => ?_
  have toOpened := (steady_groupStart.drops _ _ _ isOpened).trans isBefore
  cases start with
  | flags change =>
      refine bind_eq_bind rfl fun _ between isSet => ?_
      exact same _ _ _ (((steady_setIgnoreBlanks _).shrinks isSet).trans toOpened)
  | group change =>
      refine bind_eq_bind rfl fun _ between isSet => ?_
      have toInner := ((steady_setIgnoreBlanks _).shrinks isSet).trans toOpened
      refine bind_eq_bind (same _ _ _ toInner) fun inner ends ofInner => ?_
      have toEnd := ((steady_alternatives _ _ _).shrinks ofInner).trans toInner
      refine bind_eq_bind rfl fun _ closed isClosed => ?_
      refine bind_eq_bind rfl fun _ later isReset => ?_
      exact same _ _ _ (((steady_setIgnoreBlanks _).shrinks isReset).trans
        (((steady_expect _).shrinks isClosed).trans toEnd))

theorem repetitionRound_eq (same : SameWithin text fuel other) {before : Cursor}
    (isBefore : before.rest.drop 1 <:+ text) (branches parts : List Tree) :
    repetitionRound fuel branches parts before = repetitionRound other branches parts before := by
  unfold repetitionRound
  split
  · split
    · refine bind_eq_bind rfl fun count between isRead => ?_
      exact same _ _ _ ((steady_repetition.drops _ _ _ isRead).trans isBefore)
    · rfl
  · rfl

theorem alternativesRound_eq {first : Char} (same : SameWithin text fuel other)
    (branches parts : List Tree) (ignoreBlanks : Bool) (names : List String) :
    alternativesRound fuel branches parts (first :: text) ⟨first :: text, ignoreBlanks, names⟩ =
      alternativesRound other branches parts (first :: text)
        ⟨first :: text, ignoreBlanks, names⟩ := by
  by_cases isMark : first ∈ [')', '|', '(', '[']
  · simp only [List.mem_cons, List.not_mem_nil, or_false] at isMark
    rcases isMark with rfl | rfl | rfl | rfl
    · rfl
    · refine bind_eq_bind rfl fun _ between advanced => ?_
      exact same _ _ _ (steady_advance.drops _ _ _ advanced)
    · exact groupRound_eq same (List.suffix_refl _) branches parts ignoreBlanks
    · refine bind_eq_bind rfl fun part between ofClass => ?_
      exact same _ _ _ (steady_classTree.drops _ _ _ ofClass)
  · rw [alternativesRound_part _ _ _ isMark, alternativesRound_part _ _ _ isMark]
    split
    · exact repetitionRound_eq same (List.suffix_refl _) branches parts
    · refine bind_eq_bind rfl fun part between ofPart => ?_
      exact same _ _ _ (steady_primitive.drops _ _ _ ofPart)

/-- Every round takes a character away. -/
theorem alternatives_eq_of_lt {branches parts : List Tree} {before : Cursor}
    (enough : before.rest.length < fuel) (otherEnough : before.rest.length < other) :
    alternatives fuel branches parts before = alternatives other branches parts before := by
  induction fuel generalizing other branches parts before with
  | zero => cases enough
  | succ fuel inAlternatives =>
      obtain ⟨other, rfl⟩ := Nat.exists_eq_succ_of_ne_zero (Nat.ne_zero_of_lt otherEnough)
      rw [alternatives_succ, alternatives_succ]
      refine bind_eq_bind rfl fun _ skipped isSkipped => ?_
      have fewer := (steady_skipBlanks.shrinks isSkipped).length_le
      obtain ⟨left, ignoreBlanks, names⟩ := skipped
      rcases left with _ | ⟨first, text⟩
      · rfl
      refine alternativesRound_eq (fun branches parts between isLater => ?_) _ _ _ _
      have shorter := isLater.length_le
      simp only [List.length_cons] at fewer
      exact inAlternatives (by omega) (by omega)

end Rounds

end DocShape.Pattern.Reader
