import DocShape.Pattern.Reading

namespace DocShape.Pattern

/-! Reading a pattern alone and with the closing text of its anchors behind it.

The two readings go alike while the pattern lasts.  They part at its end only: where the
shorter one fails because nothing is left, or where a comment swallows the closing text as
well.  Then the longer reading, if it goes on at all, has read the closing parenthesis.
-/

def Reader.closing : List Char := [')', '$']

def Cursor.closed (cursor : Cursor) : Cursor := { cursor with rest := cursor.rest ++ Reader.closing }

namespace Reader

section Steady

variable {α β : Type} {reader : Reader α} {next : α → Reader β} {before after : Cursor}

theorem bind_apply (reader : Reader α) (next : α → Reader β) (before : Cursor) :
    (reader >>= next) before = (reader before).bind fun found => next found.1 found.2 := rfl

theorem bind_eq_some_iff {result : β} :
    (reader >>= next) before = some (result, after) ↔
      ∃ found between, reader before = some (found, between) ∧
        next found between = some (result, after) := by
  rw [bind_apply, Option.bind_eq_some_iff, Prod.exists]

/-- What is left where a reading has gone past the closing parenthesis. -/
def past (_ : α) (after : Cursor) : Prop := after.rest <:+ ['$']

/-- What is left where a reading has come to the closing parenthesis. -/
def reached (_ : α) (after : Cursor) : Prop := after.rest <:+ closing

theorem reached_of_past {result : α} (isPast : past result after) : reached result after :=
  isPast.trans (List.suffix_cons _ _)

/-- The reading with the closing text behind goes like the one without, or both have come
to the end: the one without in failure or in a comment that takes the closing text as well,
the other with no more left than `leftover` says. -/
inductive Follows (leftover : α → Cursor → Prop) (reader : Reader α) (before : Cursor) : Prop where
  | alike (same : reader before.closed = (reader before).map (Prod.map id Cursor.closed))
  | parted
      (spent : ∀ result after, reader before = some (result, after) →
        after.rest = [] ∧ '#' ∈ before.rest ∧ reader before.closed = some (result, after))
      (beyond : ∀ result after, reader before.closed = some (result, after) → leftover result after)

/-- A reader that takes at least `count` characters away and, from where `start` holds,
reads alike with the closing text behind. -/
structure Steady (start : Cursor → Prop) (count : Nat) (leftover : α → Cursor → Prop)
    (reader : Reader α) : Prop where
  drops : ∀ before result after, reader before = some (result, after) →
    after.rest <:+ before.rest.drop count
  follows : ∀ before, start before → Follows leftover reader before

def anywhere : Cursor → Prop := fun _ => True

/-- Before the end. -/
def inside (cursor : Cursor) : Prop := cursor.rest ≠ []

theorem inside_cons (character : Char) (rest : List Char) (ignoreBlanks : Bool)
    (names : List String) : inside ⟨character :: rest, ignoreBlanks, names⟩ :=
  List.cons_ne_nil _ _

variable {start : Cursor → Prop} {count : Nat} {leftover : α → Cursor → Prop}
  {further : β → Cursor → Prop}

theorem drop_suffix_drop {left right : List Char} (shorter : left <:+ right) (count : Nat) :
    left.drop count <:+ right.drop count := by
  obtain ⟨front, rfl⟩ := shorter
  rw [List.drop_append]
  exact (List.drop_suffix_drop_left _ (Nat.sub_le _ _)).trans (List.suffix_append _ _)

theorem Steady.shrinks (steady : Steady start count leftover reader) {result : α}
    (done : reader before = some (result, after)) : after.rest <:+ before.rest :=
  (steady.drops _ _ _ done).trans (List.drop_suffix _ _)

theorem Steady.restrict (steady : Steady anywhere count leftover reader) :
    Steady inside count leftover reader :=
  ⟨steady.drops, fun before _ => steady.follows before trivial⟩

theorem Steady.uncounted (steady : Steady start count leftover reader) :
    Steady start 0 leftover reader :=
  ⟨fun _ _ _ done => steady.shrinks done, steady.follows⟩

theorem Follows.mono {other : α → Cursor → Prop} (follows : Follows leftover reader before)
    (weaker : ∀ result after, leftover result after → other result after) :
    Follows other reader before := by
  cases follows with
  | alike same => exact .alike same
  | parted spent beyond => exact .parted spent fun _ _ done => weaker _ _ (beyond _ _ done)

/-- Only the two readings count, and not how they have come about. -/
theorem Follows.onward {other : Reader α} {later : Cursor}
    (follows : Follows leftover other later) (isLater : later.rest <:+ before.rest)
    (alone : reader before = other later) (closed : reader before.closed = other later.closed) :
    Follows leftover reader before := by
  cases follows with
  | alike same => exact .alike (by rw [alone, closed, same])
  | parted spent beyond =>
      refine .parted ?_ (by rwa [closed])
      rw [alone, closed]
      intro result after done
      obtain ⟨nothing, comment, same⟩ := spent _ _ done
      exact ⟨nothing, isLater.subset comment, same⟩

theorem Follows.congr {other : Reader α} (follows : Follows leftover other before)
    (alone : reader before = other before) (closed : reader before.closed = other before.closed) :
    Follows leftover reader before :=
  follows.onward (List.suffix_refl _) alone closed

theorem Steady.mono {other : α → Cursor → Prop} (steady : Steady start count leftover reader)
    (weaker : ∀ result after, leftover result after → other result after) :
    Steady start count other reader :=
  ⟨steady.drops, fun before isStart => (steady.follows before isStart).mono weaker⟩

/-- Where the first reading has parted, the second starts from what is left over. -/
theorem Follows.bind (first : Follows leftover reader before)
    (toNext : ∀ found between, reader before = some (found, between) →
      between.rest <:+ before.rest)
    (shrinks : ∀ found between result after, next found between = some (result, after) →
      after.rest <:+ between.rest)
    (each : ∀ found between, reader before = some (found, between) →
      Follows further (next found) between)
    (onward : ∀ found between result after, leftover found between →
      next found between = some (result, after) → further result after) :
    Follows further (reader >>= next) before := by
  cases first with
  | alike same =>
      cases read : reader before with
      | none => exact .alike (by simp only [bind_apply, same, read, Option.map_none, Option.bind_none])
      | some found =>
          refine (each _ _ read).onward (toNext _ _ read) ?_ ?_
          · rw [bind_apply, read, Option.bind_some]
          · rw [bind_apply, same, read, Option.map_some, Option.bind_some, Prod.map_fst,
              Prod.map_snd, id]
  | parted spent beyond =>
      refine .parted ?_ ?_
      · intro result after done
        obtain ⟨found, between, ofFirst, ofNext⟩ := bind_eq_some_iff.mp done
        obtain ⟨nothing, comment, ofClosed⟩ := spent _ _ ofFirst
        have shorter := shrinks _ _ _ _ ofNext
        rw [nothing] at shorter
        exact ⟨List.suffix_nil.mp shorter, comment,
          bind_eq_some_iff.mpr ⟨_, _, ofClosed, ofNext⟩⟩
      · intro result after done
        obtain ⟨found, between, ofFirst, ofNext⟩ := bind_eq_some_iff.mp done
        exact onward _ _ _ _ (beyond _ _ ofFirst) ofNext

theorem Steady.bindOnward (first : Steady start count leftover reader)
    (each : ∀ found, Steady anywhere 0 further (next found))
    (onward : ∀ found between result after, leftover found between →
      next found between = some (result, after) → further result after) :
    Steady start count further (reader >>= next) where
  drops before result after done := by
    obtain ⟨found, between, ofFirst, ofNext⟩ := bind_eq_some_iff.mp done
    exact ((each found).shrinks ofNext).trans (first.drops _ _ _ ofFirst)
  follows before isStart :=
    (first.follows before isStart).bind (fun _ _ done => first.shrinks done)
      (fun _ _ _ _ done => (each _).shrinks done)
      (fun found between _ => (each found).follows between trivial) onward

theorem Steady.bindWeaker (first : Steady start count past reader)
    (each : ∀ found, Steady anywhere 0 further (next found))
    (weaker : ∀ result after, past result after → further result after) :
    Steady start count further (reader >>= next) :=
  first.bindOnward each fun _ _ _ _ isPast done =>
    weaker _ _ (((each _).shrinks done).trans isPast)

theorem Steady.bind (first : Steady start count past reader)
    (each : ∀ found, Steady anywhere 0 past (next found)) :
    Steady start count past (reader >>= next) :=
  first.bindWeaker each fun _ _ isPast => isPast

theorem Steady.bindReached (first : Steady start count reached reader)
    (each : ∀ found, Steady anywhere 0 reached (next found)) :
    Steady start count reached (reader >>= next) :=
  first.bindOnward each fun _ _ _ _ isReached done => ((each _).shrinks done).trans isReached

theorem Steady.ite {condition : Prop} [Decidable condition] {other : Reader α}
    (ifTrue : Steady start count leftover reader) (ifFalse : Steady start count leftover other) :
    Steady start count leftover (if condition then reader else other) := by
  split
  · exact ifTrue
  · exact ifFalse

theorem steady_pure (value : α) : Steady start 0 leftover (pure value : Reader α) where
  drops := by
    rintro before _ _ ⟨⟩
    exact List.suffix_refl _
  follows _ _ := .alike rfl

theorem steady_failure : Steady start count leftover (failure : Reader α) where
  drops := nofun
  follows _ _ := .alike rfl

/-- What is read depends on the cursor, which itself stays. -/
theorem Steady.get {next : Cursor → Reader α}
    (drops : ∀ before result after, next before before = some (result, after) →
      after.rest <:+ before.rest.drop count)
    (follows : ∀ before, start before → Follows leftover (fun cursor => next cursor cursor) before) :
    Steady start count leftover (MonadState.get >>= next) :=
  ⟨drops, follows⟩

end Steady

theorem afterBlanks_suffix (inComment : Bool) (text : List Char) :
    afterBlanks inComment text <:+ text := by
  induction text generalizing inComment with
  | nil => cases inComment <;> exact List.suffix_refl _
  | cons character rest inRest =>
      have later (inside : Bool) : afterBlanks inside rest <:+ character :: rest :=
        (inRest inside).trans (List.suffix_cons _ _)
      cases inComment with
      | true => exact later _
      | false =>
          rw [afterBlanks]
          split
          · exact later _
          · split
            · exact later _
            · exact List.suffix_refl _

/-- Only a comment goes on into the closing text, and it swallows all of it. -/
theorem afterBlanks_closing (inComment : Bool) (text : List Char) :
    afterBlanks inComment (text ++ closing) = afterBlanks inComment text ++ closing ∨
      (inComment = true ∨ '#' ∈ text) ∧
        afterBlanks inComment text = [] ∧ afterBlanks inComment (text ++ closing) = [] := by
  induction text generalizing inComment with
  | nil =>
      cases inComment with
      | true => exact .inr ⟨.inl rfl, rfl, by decide⟩
      | false => exact .inl (by decide)
  | cons character rest inRest =>
      have later {inside : Bool} (enters : inside = true → inComment = true ∨ character = '#') :
          afterBlanks inside (rest ++ closing) = afterBlanks inside rest ++ closing ∨
            (inComment = true ∨ '#' ∈ character :: rest) ∧
              afterBlanks inside rest = [] ∧ afterBlanks inside (rest ++ closing) = [] := by
        refine (inRest inside).imp_right (And.imp_left ?_)
        rintro (isInside | comment)
        · refine (enters isInside).imp_right fun starts => ?_
          rw [starts]
          exact List.mem_cons_self
        · exact .inr (List.mem_cons_of_mem _ comment)
      cases inComment with
      | true => exact later fun _ => .inl rfl
      | false =>
          simp only [List.cons_append, afterBlanks]
          split
          · exact later nofun
          · split
            case isTrue starts => exact later fun _ => .inr starts
            case isFalse => exact .inl rfl

theorem steady_skipBlanks : Steady anywhere 0 past skipBlanks where
  drops := by
    rintro before _ _ ⟨⟩
    dsimp only
    split
    · exact afterBlanks_suffix _ _
    · exact List.suffix_refl _
  follows before _ := by
    obtain ⟨rest, ignoreBlanks, names⟩ := before
    cases ignoreBlanks with
    | false => exact .alike rfl
    | true =>
        have skips (text : List Char) : skipBlanks ⟨text, true, names⟩ =
            some ((), ⟨afterBlanks false text, true, names⟩) := rfl
        rcases afterBlanks_closing false rest with same | ⟨comment, nothing, ofClosed⟩
        · refine .alike ?_
          rw [Cursor.closed, skips, skips, same]
          rfl
        · have both : skipBlanks (Cursor.closed ⟨rest, true, names⟩) =
              skipBlanks ⟨rest, true, names⟩ := by
            rw [Cursor.closed, skips, skips, nothing, ofClosed]
          refine .parted ?_ ?_
          · intro result after done
            refine ⟨?_, comment.resolve_left nofun, both.trans done⟩
            rw [skips, nothing] at done
            cases done
            rfl
          · intro result after done
            rw [both, skips, nothing] at done
            cases done
            exact List.nil_suffix

theorem steady_advance : Steady inside 1 past advance where
  drops := by
    rintro before _ _ ⟨⟩
    exact List.suffix_refl _
  follows before isInside := by
    obtain ⟨rest, ignoreBlanks, names⟩ := before
    cases rest with
    | nil => exact absurd rfl isInside
    | cons character rest => exact .alike rfl

theorem steady_step : Steady inside 1 past step := steady_advance.bind fun _ => steady_skipBlanks

section Characters

variable {α : Type} {count : Nat} {leftover : α → Cursor → Prop}

/-- At its end the pattern alone has no character, and with the closing text behind there is
the parenthesis. -/
theorem Steady.current {next : Char → Reader α}
    (each : ∀ found, Steady inside count leftover (next found))
    (onward : ∀ before result after, before.rest = closing →
      next ')' before = some (result, after) → leftover result after) :
    Steady anywhere count leftover (Reader.current >>= next) where
  drops before result after done := by
    obtain ⟨rest, ignoreBlanks, names⟩ := before
    cases rest with
    | nil => cases done
    | cons character rest => exact (each character).drops _ _ _ done
  follows before _ := by
    obtain ⟨rest, ignoreBlanks, names⟩ := before
    cases rest with
    | nil => exact .parted nofun fun _ _ done => onward ⟨closing, _, _⟩ _ _ rfl done
    | cons character rest =>
        exact ((each character).follows _ (inside_cons _ rest ignoreBlanks names)).congr rfl rfl

theorem Steady.currentReached {next : Char → Reader α}
    (each : ∀ found, Steady inside 0 reached (next found)) :
    Steady anywhere 0 reached (Reader.current >>= next) := by
  refine .current each fun before result after atClosing done => ?_
  have shorter := (each ')').shrinks done
  rwa [atClosing] at shorter

/-- Looking for a character other than the closing parenthesis. -/
theorem Steady.peek? {character : Char} {found other : Reader α} (isOther : character ≠ ')')
    (ifFound : Steady inside count leftover found) (ifNot : Steady anywhere count leftover other) :
    Steady anywhere count leftover
      (Reader.peek? >>= fun next => if next = some character then found else other) where
  drops before result after done := by
    obtain ⟨next, _, ⟨⟩, done⟩ := bind_eq_some_iff.mp done
    split at done
    · exact ifFound.drops _ _ _ done
    · exact ifNot.drops _ _ _ done
  follows before _ := by
    have reads (cursor : Cursor) :
        (Reader.peek? >>= fun next => if next = some character then found else other) cursor =
          if cursor.rest.head? = some character then found cursor else other cursor := by
      change (if cursor.rest.head? = some character then found else other : Reader α) cursor = _
      split <;> rfl
    have sameHead : (before.closed.rest.head? = some character) =
        (before.rest.head? = some character) := by
      rw [Cursor.closed]
      cases before.rest with
      | nil => simp [closing, isOther.symm]
      | cons => rfl
    have follows : Follows leftover (fun cursor =>
        if before.rest.head? = some character then found cursor else other cursor) before := by
      by_cases isThere : before.rest.head? = some character
      · simp only [isThere, if_true]
        refine ifFound.follows before fun nothing => ?_
        rw [nothing] at isThere
        cases isThere
      · simp only [isThere, if_false]
        exact ifNot.follows before trivial
    exact follows.congr (reads _) (by simp only [reads, sameHead])

end Characters

theorem steady_expect (character : Char) : Steady anywhere 1 past (expect character) := by
  refine .current (fun found => .ite steady_advance steady_failure) ?_
  intro before result after atClosing done
  split at done
  · have shorter := steady_advance.drops _ _ _ done
    rwa [atClosing] at shorter
  · cases done

/-- No text without a closing parenthesis goes on into the closing text. -/
theorem isPrefixOf_closing {text : List Char} (without : ')' ∉ text) (left : List Char) :
    text.isPrefixOf (left ++ closing) = text.isPrefixOf left := by
  induction text generalizing left with
  | nil => simp
  | cons character text inText =>
      obtain ⟨isOther, without⟩ := List.ne_and_not_mem_of_not_mem_cons without
      cases left with
      | nil => simp [closing, List.isPrefixOf, Ne.symm isOther]
      | cons next left => simp only [List.cons_append, List.isPrefixOf, inText without]

theorem steady_accept {leftover : Bool → Cursor → Prop} {text : String} (without : ')' ∉ text.toList) :
    Steady anywhere 0 leftover (accept text) := by
  have reads (cursor : Cursor) : accept text cursor =
      if text.toList.isPrefixOf cursor.rest then
        some (true, { cursor with rest := cursor.rest.drop text.toList.length })
      else some (false, cursor) := by
    change (if text.toList.isPrefixOf cursor.rest then _ else _ : Reader Bool) cursor = _
    split <;> rfl
  constructor
  case drops =>
    intro before result after done
    rw [reads] at done
    split at done <;> cases done
    · exact List.drop_suffix _ _
    · exact List.suffix_refl _
  case follows =>
    intro before _
    refine .alike ?_
    rw [reads, reads, Cursor.closed, isPrefixOf_closing without]
    split
    case isFalse => rfl
    case isTrue isThere =>
      have enough := (List.isPrefixOf_iff_prefix.mp isThere).length_le
      rw [List.drop_append_of_le_length enough]
      rfl

end Reader
end DocShape.Pattern
