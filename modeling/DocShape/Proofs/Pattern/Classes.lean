import DocShape.Proofs.Pattern.Escapes

namespace DocShape.Pattern.Reader

/-! Reading classes in brackets with the closing text behind.

A class that has not ended finds no bracket in the closing text, so it fails there.
-/

theorem splitFirst?_suffix {separator text before after : List Char}
    (found : splitFirst? separator text = some (before, after)) : after <:+ text := by
  induction text generalizing before with
  | nil => cases found
  | cons character rest inRest =>
      rw [splitFirst?] at found
      split at found
      · cases found
        exact List.drop_suffix _ _
      · obtain ⟨⟨inner, later⟩, isThere, same⟩ := Option.map_eq_some_iff.mp found
        cases same
        exact (inRest isThere).trans (List.suffix_cons _ _)

theorem splitFirst?_closing {separator : Char} (without : separator ∉ closing) (text : List Char) :
    splitFirst? [separator] (text ++ closing) =
      (splitFirst? [separator] text).map (Prod.map id (· ++ closing)) := by
  induction text with
  | nil =>
      simp only [closing, List.mem_cons, List.not_mem_nil, or_false, not_or] at without
      simp [closing, splitFirst?, without]
  | cons character rest inRest =>
      have sameStart : [separator].isPrefixOf (character :: (rest ++ closing)) =
          [separator].isPrefixOf (character :: rest) := rfl
      simp only [List.cons_append, splitFirst?, inRest, sameStart]
      split
      · rfl
      · cases splitFirst? [separator] rest <;> rfl

/-- The name of a class between colons, from within the bracket. -/
def asciiName? (inner : List Char) : Option (ClassSet × List Char) := do
  let negated := inner.head? == some '^'
  let (name, after) ← splitFirst? [':'] (if negated then inner.drop 1 else inner)
  if after.head? = some ']' then
    let members ← asciiRanges? (String.ofList name)
    return (.ascii members negated, after.drop 1)
  else none

theorem asciiClass?_eq (text : List Char) :
    asciiClass? text = if ['[', ':'].isPrefixOf text then asciiName? (text.drop 2) else none := by
  rw [asciiClass?]
  split <;> rfl

theorem asciiName?_suffix {inner after : List Char} {item : ClassSet}
    (found : asciiName? inner = some (item, after)) : after <:+ inner := by
  obtain ⟨⟨name, left⟩, isSplit, found⟩ := Option.bind_eq_some_iff.mp found
  have shorter : (if inner.head? == some '^' then inner.drop 1 else inner) <:+ inner := by
    split
    · exact List.drop_suffix _ _
    · exact List.suffix_refl _
  refine List.IsSuffix.trans ?_ ((splitFirst?_suffix isSplit).trans shorter)
  dsimp only at found
  split at found
  · obtain ⟨members, _, done⟩ := Option.bind_eq_some_iff.mp found
    cases done
    exact List.drop_suffix _ _
  · cases found

theorem asciiName?_closing (inner : List Char) :
    asciiName? (inner ++ closing) = (asciiName? inner).map (Prod.map id (· ++ closing)) := by
  cases inner with
  | nil => rfl
  | cons first text =>
      have start : (if first == '^' then text ++ closing else first :: (text ++ closing)) =
          (if first == '^' then text else first :: text) ++ closing := by
        split <;> rfl
      simp only [asciiName?, List.cons_append, List.head?_cons, Option.some_beq_some,
        List.drop_succ_cons, List.drop_zero, start]
      rw [splitFirst?_closing (by decide)]
      cases splitFirst? [':'] (if first == '^' then text else first :: text) with
      | none => rfl
      | some found =>
          obtain ⟨name, after⟩ := found
          cases after with
          | nil => rfl
          | cons next after =>
              by_cases ends : next = ']'
              · cases ends
                cases named : asciiRanges? (String.ofList name) with
                | none => simp [named]
                | some members => simp [named]
              · simp [ends]

theorem asciiClass?_suffix {text after : List Char} {item : ClassSet}
    (found : asciiClass? text = some (item, after)) : after <:+ text.drop 2 := by
  rw [asciiClass?_eq] at found
  split at found
  · exact asciiName?_suffix found
  · cases found

theorem asciiClass?_closing (text : List Char) :
    asciiClass? (text ++ closing) = (asciiClass? text).map (Prod.map id (· ++ closing)) := by
  rw [asciiClass?_eq, asciiClass?_eq, isPrefixOf_closing (by decide)]
  split
  case isTrue isThere =>
    have enough := (List.isPrefixOf_iff_prefix.mp isThere).length_le
    exact (congrArg asciiName? (List.drop_append_of_le_length enough)).trans (asciiName?_closing _)
  case isFalse => rfl

theorem steady_classItem (tree : Tree) {start : Cursor → Prop} {leftover : ClassSet → Cursor → Prop} :
    Steady start 0 leftover (classItem tree) := by
  unfold classItem
  split <;> first | exact steady_pure _ | exact steady_failure

theorem steady_classPart : Steady anywhere 1 hanging classPart := by
  refine .current (fun first => .ite steady_escape.restrict ?_) ?_
  · exact (steady_advance.bind fun _ => steady_pure _).mono fun _ _ => .inl
  · rintro ⟨rest, ignoreBlanks, names⟩ result after atClosing done
    cases atClosing
    cases done
    exact .inl (List.suffix_refl _)

/-- What is seen behind a dash is a given character, unless it is passed over there, just as
well with the closing text behind. -/
theorem afterDash?_closing {character : Char} (isOther : character ≠ ')')
    (notBlank : isBlank character = false) (noComment : character ≠ '#') (ignoreBlanks : Bool)
    (text : List Char) :
    afterDash? ignoreBlanks (text ++ closing) = some character ↔
      afterDash? ignoreBlanks text = some character := by
  cases ignoreBlanks with
  | false =>
      cases text with
      | nil => simp [afterDash?, closing, isOther.symm]
      | cons => rfl
  | true =>
      have starts (found : text.head? = some character) :
          (text.dropWhile isBlank).head? = some character := by
        obtain ⟨rest, rfl⟩ := List.head?_eq_some_iff.mp found
        simp [notBlank]
      have stays : isBlank ')' = false := by decide
      simp only [afterDash?, if_true, dropWhile_closing stays]
      cases past : text.dropWhile isBlank with
      | nil =>
          rw [past] at starts
          have notFirst : text.head? ≠ some character := by
            intro found
            cases starts found
          simp [closing, isOther.symm, notFirst]
      | cons first rest =>
          rw [past] at starts
          by_cases comment : first = '#'
          · cases comment
            have notFirst : text.head? ≠ some character := fun found => noComment (by
              simpa using (starts found).symm)
            simp only [List.cons_append, dropWhile_closing stays]
            cases rest.dropWhile isBlank with
            | nil => simp [closing, isOther.symm, notFirst]
            | cons => simp
          · simp [comment]

/-- A range from an item on whose dash has been met. -/
def rangeTo (first : Tree) : Reader ClassSet := do
  step
  match first, (← classPart) with
  | .literal low, .literal high =>
      if low.character ≤ high.character then return .range low high else failure
  | _, _ => failure

/-- The remainder of an item, once its first part is read and the text behind it is seen. -/
def rangeAt (first : Tree) : List Char → Reader ClassSet
  | [] => failure
  | '-' :: text => do
      let next := afterDash? (← get).ignoreBlanks text
      if next = some ']' ∨ next = some '-' then classItem first else rangeTo first
  | _ => classItem first

def rangeFrom (first : Tree) : Reader ClassSet := do
  skipBlanks
  rangeAt first (← rest)

theorem classRange_eq : classRange = classPart >>= rangeFrom := rfl

theorem steady_rangeTo (first : Tree) : Steady inside 1 past (rangeTo first) := by
  have second (high : Tree) : Steady anywhere 0 past (match first, high with
      | .literal low, .literal high =>
          if low.character ≤ high.character then (return .range low high : Reader ClassSet)
          else failure
      | _, _ => failure) := by
    split
    · exact .ite (steady_pure _) steady_failure
    · exact steady_failure
  refine steady_step.bind fun _ => steady_classPart.uncounted.bindOnward second ?_
  rintro high before result after (isPast | ⟨⟨kind, rfl⟩, _⟩) done
  · exact ((second high).shrinks done).trans isPast
  · cases first <;> cases done

theorem rangeAt_anchor (kind : AnchorKind) (left : List Char) (before : Cursor) :
    rangeAt (.anchor kind) left before = none := by
  have fails : rangeTo (.anchor kind) before = none := by
    cases done : rangeTo (.anchor kind) before with
    | none => rfl
    | some found =>
        obtain ⟨_, _, _, done⟩ := bind_eq_some_iff.mp done
        obtain ⟨_, _, _, done⟩ := bind_eq_some_iff.mp done
        cases done
  unfold rangeAt
  split
  · rfl
  · change (if _ then _ else _ : Reader ClassSet) before = none
    split
    · rfl
    · exact fails
  · rfl

theorem rangeAt_closing (first : Tree) {left : List Char} (isLeft : left ≠ []) :
    rangeAt first (left ++ closing) = rangeAt first left := by
  unfold rangeAt
  cases left with
  | nil => exact absurd rfl isLeft
  | cons character text =>
      by_cases dash : character = '-'
      · cases dash
        have bracket (ignoreBlanks : Bool) :=
          afterDash?_closing (show ']' ≠ ')' by decide) (by decide) (by decide) ignoreBlanks text
        have dash (ignoreBlanks : Bool) :=
          afterDash?_closing (show '-' ≠ ')' by decide) (by decide) (by decide) ignoreBlanks text
        simp only [List.cons_append, bracket, dash]
      · simp [dash]

theorem steady_rangeAt (first : Tree) (left : List Char) :
    Steady inside 0 reached (rangeAt first left) := by
  unfold rangeAt
  split
  case h_1 => exact steady_failure
  case h_2 text =>
    have branch (ignoreBlanks : Bool) : Steady inside 0 reached
        (if afterDash? ignoreBlanks text = some ']' ∨ afterDash? ignoreBlanks text = some '-' then
          classItem first
        else rangeTo first) :=
      .ite (steady_classItem first) ((steady_rangeTo first).uncounted.mono fun _ _ => reached_of_past)
    exact .get (fun before _ _ done => (branch before.ignoreBlanks).drops _ _ _ done)
      fun before isInside => ((branch before.ignoreBlanks).follows before isInside).congr rfl rfl
  case h_3 => exact steady_classItem first

theorem steady_rangeFrom (first : Tree) : Steady anywhere 0 reached (rangeFrom first) := by
  refine steady_skipBlanks.bindWeaker (fun _ => ⟨?_, ?_⟩) fun _ _ => reached_of_past
  · intro before result after done
    exact (steady_rangeAt first before.rest).drops _ _ _ done
  · rintro ⟨rest, ignoreBlanks, names⟩ _
    cases rest with
    | nil =>
        refine .parted nofun fun result after done => ?_
        exact (steady_rangeAt first closing).shrinks done
    | cons character rest =>
        refine ((steady_rangeAt first (character :: rest)).follows _ (inside_cons _ _ _ _)).congr
          rfl ?_
        have same := rangeAt_closing first (List.cons_ne_nil character rest)
        exact congrFun same _

theorem steady_classRange : Steady anywhere 1 reached classRange := by
  rw [classRange_eq]
  refine steady_classPart.bindOnward steady_rangeFrom ?_
  rintro first before result after (isPast | ⟨⟨kind, rfl⟩, _⟩) done
  · exact reached_of_past (((steady_rangeFrom first).shrinks done).trans isPast)
  · obtain ⟨_, _, _, done⟩ := bind_eq_some_iff.mp done
    obtain ⟨_, _, _, done⟩ := bind_eq_some_iff.mp done
    rw [rangeAt_anchor] at done
    cases done

theorem steady_classStart : Steady anywhere 1 reached classStart := by
  have dashes : Steady anywhere 0 past (many (· == '-')) := steady_many (by decide)
  have opened (negated : Bool) : Steady anywhere 0 reached (do
      let dashes ← many (· == '-')
      let next ← current
      let literal := fun character : Char => ClassSet.literal ⟨character, false⟩
      if dashes.isEmpty && next == ']' then
        step
        discard current
        return (negated, [literal ']'])
      else return (negated, dashes.map literal)) := by
    refine dashes.bindWeaker (fun _ => ?_) fun _ _ => reached_of_past
    refine .currentReached fun next => .ite ?_ (steady_pure _)
    refine steady_step.uncounted.bindWeaker (fun _ => ?_) fun _ _ => reached_of_past
    exact (Steady.currentReached fun _ => steady_pure _).bindReached fun _ => steady_pure _
  refine (steady_expect '[').bindWeaker (fun _ => ?_) fun _ _ => reached_of_past
  refine steady_skipBlanks.bindWeaker (fun _ => ?_) fun _ _ => reached_of_past
  refine .currentReached fun mark => .ite ?_ (opened _).restrict
  exact steady_step.uncounted.bindWeaker (fun _ => opened _) fun _ _ => reached_of_past

/-- One round of a class body, once blanks are passed and the text left is seen. -/
def classRound (fuel : Nat) (pending : Option (SetOperation × ClassSet)) (items : List ClassSet)
    (left : List Char) : Reader ClassSet :=
  match left with
  | [] => failure
  | ']' :: _ => do
      advance
      return combine pending items
  | '[' :: _ =>
      match asciiClass? left with
      | some (item, after) => do
          setRest after
          classBody fuel pending (item :: items)
      | none => do
          let (negated, opened) ← classStart
          let inner ← classBody fuel none opened.reverse
          classBody fuel pending (.bracketed negated inner :: items)
  | _ =>
      match classOperation? left with
      | some operation => do
          advance
          advance
          classBody fuel (some (operation, combine pending items)) []
      | none => do
          let item ← classRange
          classBody fuel pending (item :: items)

theorem classBody_succ (fuel : Nat) (pending : Option (SetOperation × ClassSet))
    (items : List ClassSet) :
    classBody (fuel + 1) pending items =
      skipBlanks >>= fun _ => rest >>= classRound fuel pending items := rfl

section Body

variable {fuel : Nat} {pending : Option (SetOperation × ClassSet)} {items : List ClassSet}
  {before after : Cursor} {result : ClassSet}

theorem classRound_bracket (fuel : Nat) (pending : Option (SetOperation × ClassSet))
    (items : List ClassSet) (text : List Char) :
    classRound fuel pending items ('[' :: text) =
      match asciiClass? ('[' :: text) with
      | some (item, after) => setRest after >>= fun _ => classBody fuel pending (item :: items)
      | none => classStart >>= fun opened => classBody fuel none opened.2.reverse >>= fun inner =>
          classBody fuel pending (.bracketed opened.1 inner :: items) := rfl

theorem classRound_item (fuel : Nat) (pending : Option (SetOperation × ClassSet))
    (items : List ClassSet) {character : Char} (noEnd : character ≠ ']')
    (noStart : character ≠ '[') (text : List Char) :
    classRound fuel pending items (character :: text) =
      match classOperation? (character :: text) with
      | some operation => advance >>= fun _ => advance >>= fun _ =>
          classBody fuel (some (operation, combine pending items)) []
      | none => classRange >>= fun item => classBody fuel pending (item :: items) := by
  unfold classRound
  split
  · next nothing => cases nothing
  · next same => exact absurd (List.cons.inj same).1 noEnd
  · next same => exact absurd (List.cons.inj same).1 noStart
  · rfl

theorem bracket_of_classRound {text : List Char} {ignoreBlanks : Bool} {names : List String}
    (inBody : ∀ {pending items before result after},
      classBody fuel pending items before = some (result, after) →
        after.rest <:+ before.rest ∧ ']' ∈ before.rest)
    (read : classRound fuel pending items text ⟨text, ignoreBlanks, names⟩ = some (result, after)) :
    after.rest <:+ text ∧ ']' ∈ text := by
  rcases text with _ | ⟨first, text⟩
  · cases read
  by_cases isEnd : first = ']'
  · cases isEnd
    exact ⟨(steady_advance.bind fun _ => steady_pure _).shrinks read, List.mem_cons_self⟩
  by_cases isStart : first = '['
  · cases isStart
    rw [classRound_bracket] at read
    cases named : asciiClass? ('[' :: text) with
    | some found =>
        simp only [named] at read
        obtain ⟨_, between, ⟨⟩, read⟩ := bind_eq_some_iff.mp read
        have inText := (asciiClass?_suffix named).trans (List.drop_suffix _ _)
        exact ⟨(inBody read).1.trans inText, inText.subset (inBody read).2⟩
    | none =>
        simp only [named] at read
        obtain ⟨_, opened, starts, read⟩ := bind_eq_some_iff.mp read
        obtain ⟨_, between, ofInner, read⟩ := bind_eq_some_iff.mp read
        have inText := steady_classStart.shrinks starts
        exact ⟨((inBody read).1.trans (inBody ofInner).1).trans inText,
          inText.subset (inBody ofInner).2⟩
  · rw [classRound_item _ _ _ isEnd isStart] at read
    cases operates : classOperation? (first :: text) with
    | some operation =>
        simp only [operates] at read
        obtain ⟨_, between, advanced, read⟩ := bind_eq_some_iff.mp read
        obtain ⟨_, later, advancedAgain, read⟩ := bind_eq_some_iff.mp read
        have inText := (steady_advance.shrinks advancedAgain).trans (steady_advance.shrinks advanced)
        exact ⟨(inBody read).1.trans inText, inText.subset (inBody read).2⟩
    | none =>
        simp only [operates] at read
        obtain ⟨_, between, ofItem, read⟩ := bind_eq_some_iff.mp read
        have inText := steady_classRange.shrinks ofItem
        exact ⟨(inBody read).1.trans inText, inText.subset (inBody read).2⟩

/-- A class ends in a bracket. -/
theorem bracket_of_classBody (read : classBody fuel pending items before = some (result, after)) :
    after.rest <:+ before.rest ∧ ']' ∈ before.rest := by
  induction fuel generalizing pending items before result after with
  | zero => cases read
  | succ fuel inBody =>
      rw [classBody_succ] at read
      obtain ⟨_, between, skipped, read⟩ := bind_eq_some_iff.mp read
      have shorter := steady_skipBlanks.shrinks skipped
      have inText := bracket_of_classRound inBody read
      exact ⟨inText.1.trans shorter, shorter.subset inText.2⟩

theorem classOperation?_closing (first : Char) (text : List Char) :
    classOperation? (first :: (text ++ closing)) = classOperation? (first :: text) := by
  cases text with
  | nil => simp [classOperation?, closing]
  | cons second text =>
      rw [List.cons_append, classOperation?.eq_def]
      split
      case h_1 same | h_2 same | h_3 same =>
        cases same
        rfl
      case h_4 noIntersection noDifference noSymmetric =>
        refine (classOperation?.eq_4 _ ?_ ?_ ?_).symm <;> rintro tail ⟨⟩
        · exact noIntersection _ rfl
        · exact noDifference _ rfl
        · exact noSymmetric _ rfl

theorem classBody_reached (atClosing : before.rest <:+ closing) :
    classBody fuel pending items before = none := by
  cases read : classBody fuel pending items before with
  | none => rfl
  | some found =>
      have isThere := atClosing.subset (bracket_of_classBody read).2
      exact absurd isThere (by decide)

section Round

variable {ignoreBlanks : Bool} {names : List String}

theorem classRound_bracket_follows
    (inBody : ∀ pending items, Steady anywhere 0 past (classBody fuel pending items))
    (text : List Char) :
    Follows past (rest >>= classRound fuel pending items) ⟨'[' :: text, ignoreBlanks, names⟩ := by
  have alone := classRound_bracket fuel pending items text
  have behind := classRound_bracket fuel pending items (text ++ closing)
  rw [← List.cons_append, asciiClass?_closing] at behind
  cases named : asciiClass? ('[' :: text) with
  | some found =>
      simp only [named, Option.map_some, Prod.map_fst, Prod.map_snd, id] at alone behind
      have later := (inBody pending (found.1 :: items)).follows
        ⟨found.2, ignoreBlanks, names⟩ trivial
      have isLater := (asciiClass?_suffix named).trans (List.drop_suffix _ _)
      exact later.onward isLater (congrFun alone _) (congrFun behind _)
  | none =>
      simp only [named, Option.map_none] at alone behind
      have nested := steady_classStart.bindOnward (fun opened =>
          (inBody none opened.2.reverse).bind fun inner =>
            inBody pending (.bracketed opened.1 inner :: items)) (by
        intro opened between result after atEnd done
        rw [bind_apply, classBody_reached atEnd] at done
        cases done)
      exact (nested.follows ⟨'[' :: text, ignoreBlanks, names⟩ trivial).congr
        (congrFun alone _) (congrFun behind _)

theorem classRound_item_follows
    (inBody : ∀ pending items, Steady anywhere 0 past (classBody fuel pending items))
    {first : Char} (noEnd : first ≠ ']') (noStart : first ≠ '[') (text : List Char) :
    Follows past (rest >>= classRound fuel pending items) ⟨first :: text, ignoreBlanks, names⟩ := by
  have alone := classRound_item fuel pending items noEnd noStart text
  have behind := classRound_item fuel pending items noEnd noStart (text ++ closing)
  rw [classOperation?_closing] at behind
  cases operates : classOperation? (first :: text) with
  | some operation =>
      simp only [operates] at alone behind
      rcases text with _ | ⟨second, text⟩
      · simp [classOperation?] at operates
      have later := inBody (some (operation, combine pending items)) []
      have nested := (steady_advance.bind fun _ => later).follows
        ⟨second :: text, ignoreBlanks, names⟩ (inside_cons _ _ _ _)
      exact nested.onward (List.suffix_cons _ _) (congrFun alone _) (congrFun behind _)
  | none =>
      simp only [operates] at alone behind
      have nested := steady_classRange.bindOnward (fun item => inBody pending (item :: items)) (by
        intro opened between result after atEnd done
        rw [classBody_reached atEnd] at done
        cases done)
      exact (nested.follows ⟨first :: text, ignoreBlanks, names⟩ trivial).congr
        (congrFun alone _) (congrFun behind _)

theorem classRound_follows
    (inBody : ∀ pending items, Steady anywhere 0 past (classBody fuel pending items)) :
    Follows past (rest >>= classRound fuel pending items) before := by
  obtain ⟨text, ignoreBlanks, names⟩ := before
  rcases text with _ | ⟨first, text⟩
  · refine .parted nofun fun result after done => ?_
    change classRound fuel pending items closing ⟨closing, ignoreBlanks, names⟩ = _ at done
    have ends := (bracket_of_classRound bracket_of_classBody done).2
    exact absurd ends (by decide)
  by_cases isEnd : first = ']'
  · cases isEnd
    exact ((steady_advance.bind fun _ => steady_pure _).follows _ (inside_cons _ _ _ _)).congr rfl rfl
  by_cases isStart : first = '['
  · cases isStart
    exact classRound_bracket_follows inBody text
  · exact classRound_item_follows inBody isEnd isStart text

end Round

theorem steady_classBody (fuel : Nat) (pending : Option (SetOperation × ClassSet))
    (items : List ClassSet) : Steady anywhere 0 past (classBody fuel pending items) := by
  induction fuel generalizing pending items with
  | zero => exact steady_failure
  | succ fuel inBody =>
      refine ⟨fun _ _ _ read => (bracket_of_classBody read).1, fun before _ => ?_⟩
      rw [classBody_succ]
      exact (steady_skipBlanks.follows before trivial).bind
        (fun _ _ skipped => steady_skipBlanks.shrinks skipped)
        (fun _ _ _ _ read => (bracket_of_classRound bracket_of_classBody read).1)
        (fun _ _ _ => classRound_follows inBody)
        fun _ _ _ _ isPast read => (bracket_of_classRound bracket_of_classBody read).1.trans isPast

/-- Every round takes a character away. -/
theorem classBody_eq_of_lt {other : Nat} (enough : before.rest.length < fuel)
    (otherEnough : before.rest.length < other) :
    classBody fuel pending items before = classBody other pending items before := by
  induction fuel generalizing other pending items before with
  | zero => cases enough
  | succ fuel inBody =>
      obtain ⟨other, rfl⟩ := Nat.exists_eq_succ_of_ne_zero (Nat.ne_zero_of_lt otherEnough)
      rw [classBody_succ, classBody_succ]
      refine bind_eq_bind rfl fun _ skipped isSkipped => ?_
      have fewer := (steady_skipBlanks.shrinks isSkipped).length_le
      have further {between : Cursor} {count : Nat} (isLater : between.rest <:+ skipped.rest.drop 1)
          (isCount : before.rest.length < count + 1) (some : skipped.rest ≠ []) :
          between.rest.length < count := by
        have shorter := isLater.length_le
        have positive := List.length_pos_iff.mpr some
        rw [List.length_drop] at shorter
        omega
      obtain ⟨text, ignoreBlanks, names⟩ := skipped
      change classRound fuel pending items text _ = classRound other pending items text _
      rcases text with _ | ⟨first, text⟩
      · rfl
      have same {between : Cursor} {pending : Option (SetOperation × ClassSet)}
          {items : List ClassSet} (isLater : between.rest <:+ text) :
          classBody fuel pending items between = classBody other pending items between :=
        inBody (further isLater enough (List.cons_ne_nil _ _))
          (further isLater otherEnough (List.cons_ne_nil _ _))
      by_cases isEnd : first = ']'
      · cases isEnd
        rfl
      by_cases isStart : first = '['
      · cases isStart
        rw [classRound_bracket, classRound_bracket]
        cases named : asciiClass? ('[' :: text) with
        | some found =>
            exact same ((asciiClass?_suffix named).trans (List.drop_suffix 1 text))
        | none =>
            refine bind_eq_bind rfl fun opened started starts => ?_
            have toStart := steady_classStart.drops _ _ _ starts
            refine bind_eq_bind (same toStart) fun inner between ofInner => ?_
            exact same ((bracket_of_classBody ofInner).1.trans toStart)
      · rw [classRound_item _ _ _ isEnd isStart, classRound_item _ _ _ isEnd isStart]
        cases classOperation? (first :: text) with
        | some operation =>
            refine bind_eq_bind rfl fun _ between advanced => ?_
            refine bind_eq_bind rfl fun _ later advancedAgain => ?_
            exact same ((steady_advance.shrinks advancedAgain).trans
              (steady_advance.drops _ _ _ advanced))
        | none =>
            refine bind_eq_bind rfl fun item between ofItem => ?_
            exact same (steady_classRange.drops _ _ _ ofItem)

end Body

/-- A class from its first items on, with a round for each character. -/
def classFrom (negated : Bool) (opened : List ClassSet) : Reader Tree := do
  let inner ← classBody ((← rest).length + 1) none opened.reverse
  return .bracketed negated inner

theorem steady_classFrom (negated : Bool) (opened : List ClassSet) :
    Steady anywhere 0 past (classFrom negated opened) := by
  have rounds (fuel : Nat) : Steady anywhere 0 past
      (classBody fuel none opened.reverse >>= fun inner => pure (Tree.bracketed negated inner)) :=
    (steady_classBody fuel none opened.reverse).bind fun _ => steady_pure _
  refine ⟨fun before _ _ done => (rounds (before.rest.length + 1)).drops _ _ _ done,
    fun before _ => ?_⟩
  refine ((rounds (before.closed.rest.length + 1)).follows before trivial).congr ?_ rfl
  have longer : before.rest.length ≤ before.closed.rest.length := by
    rw [Cursor.closed, List.length_append]
    exact Nat.le_add_right _ _
  have same : classBody (before.rest.length + 1) none opened.reverse before =
      classBody (before.closed.rest.length + 1) none opened.reverse before :=
    classBody_eq_of_lt (Nat.lt_succ_self _) (Nat.lt_succ_of_le longer)
  change (classBody (before.rest.length + 1) none opened.reverse >>= fun inner =>
    pure (Tree.bracketed negated inner)) before = _
  rw [bind_apply, bind_apply, same]

theorem classTree_eq : classTree = classStart >>= fun opened => classFrom opened.1 opened.2 := rfl

theorem steady_classTree : Steady anywhere 1 past classTree := by
  rw [classTree_eq]
  refine steady_classStart.bindOnward (fun opened => steady_classFrom _ _) ?_
  intro opened between result after atEnd done
  obtain ⟨_, _, ⟨⟩, done⟩ := bind_eq_some_iff.mp done
  rw [bind_apply, classBody_reached atEnd] at done
  cases done
end DocShape.Pattern.Reader
