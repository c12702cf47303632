import DocShape.Proofs.Pattern.Closing
import Mathlib.Logic.Basic

namespace DocShape.Pattern.Reader

section Runs

variable {α : Type} {belongs : Char → Bool} {before : Cursor}

theorem bind_eq_bind {β : Type} {reader other : Reader α} {next onward : α → Reader β}
    (first : reader before = other before)
    (each : ∀ found between, reader before = some (found, between) →
      next found between = onward found between) :
    (reader >>= next) before = (other >>= onward) before := by
  rw [bind_apply, bind_apply, ← first]
  cases read : reader before with
  | none => rfl
  | some found => exact each _ _ read

theorem manyUpTo_nil (fuel : Nat) (ignoreBlanks : Bool) (names : List String) :
    manyUpTo belongs fuel ⟨[], ignoreBlanks, names⟩ = some ([], ⟨[], ignoreBlanks, names⟩) := by
  cases fuel <;> rfl

theorem manyUpTo_cons (fuel : Nat) (character : Char) (rest : List Char) (ignoreBlanks : Bool)
    (names : List String) :
    manyUpTo belongs (fuel + 1) ⟨character :: rest, ignoreBlanks, names⟩ =
      if belongs character then
        (step >>= fun _ => manyUpTo belongs fuel >>= fun found => pure (character :: found))
          ⟨character :: rest, ignoreBlanks, names⟩
      else some ([], ⟨character :: rest, ignoreBlanks, names⟩) := by
  change (if belongs character = true then _ else _ : Reader _) _ = _
  split <;> rfl

theorem manyUpTo_suffix {fuel : Nat} {found : List Char} {after : Cursor}
    (read : manyUpTo belongs fuel before = some (found, after)) : after.rest <:+ before.rest := by
  induction fuel generalizing before found with
  | zero =>
      cases read
      exact List.suffix_refl _
  | succ fuel inRest =>
      obtain ⟨rest, ignoreBlanks, names⟩ := before
      cases rest with
      | nil =>
          rw [manyUpTo_nil] at read
          cases read
          exact List.suffix_refl _
      | cons character rest =>
          rw [manyUpTo_cons] at read
          split at read
          · obtain ⟨_, between, stepped, read⟩ := bind_eq_some_iff.mp read
            obtain ⟨_, last, read, done⟩ := bind_eq_some_iff.mp read
            cases done
            exact (inRest read).trans (steady_step.shrinks stepped)
          · cases read
            exact List.suffix_refl _

/-- A run takes no more rounds than there are characters. -/
theorem manyUpTo_eq_of_le {fuel other : Nat} (enough : before.rest.length ≤ fuel)
    (otherEnough : before.rest.length ≤ other) :
    manyUpTo belongs fuel before = manyUpTo belongs other before := by
  induction fuel generalizing other before with
  | zero =>
      obtain ⟨rest, ignoreBlanks, names⟩ := before
      cases List.eq_nil_of_length_eq_zero (Nat.eq_zero_of_le_zero enough)
      rw [manyUpTo_nil, manyUpTo_nil]
  | succ fuel inRest =>
      obtain ⟨rest, ignoreBlanks, names⟩ := before
      cases rest with
      | nil => rw [manyUpTo_nil, manyUpTo_nil]
      | cons character rest =>
          cases other with
          | zero => cases otherEnough
          | succ other =>
              rw [manyUpTo_cons, manyUpTo_cons]
              split
              case isFalse => rfl
              case isTrue =>
                refine bind_eq_bind rfl fun _ between stepped => ?_
                have shorter := (steady_step.drops _ _ _ stepped).length_le
                simp only [List.drop_succ_cons, List.drop_zero] at shorter
                simp only [List.length_cons] at enough otherEnough
                exact bind_eq_bind (inRest (by omega) (by omega)) fun _ _ _ => rfl

variable {count : Nat} {next : List Char → Reader α}

/-- A run that takes the closing parenthesis parts from the shorter one, so what comes next
must fail at the end. -/
theorem manyUpTo_follows_nil (each : ∀ found, Steady anywhere count past (next found))
    (ends : belongs ')' = false ∨ ∀ found cursor, cursor.rest = [] → next found cursor = none)
    (fuel : Nat) (ignoreBlanks : Bool) (names : List String) :
    Follows past (manyUpTo belongs (fuel + 1) >>= next) ⟨[], ignoreBlanks, names⟩ := by
  have alone : (manyUpTo belongs (fuel + 1) >>= next) ⟨[], ignoreBlanks, names⟩ =
      next [] ⟨[], ignoreBlanks, names⟩ := by
    rw [bind_apply, manyUpTo_nil, Option.bind_some]
  cases takes : belongs ')' with
  | false =>
      have closed : (manyUpTo belongs (fuel + 1) >>= next) ⟨closing, ignoreBlanks, names⟩ =
          next [] ⟨closing, ignoreBlanks, names⟩ := by
        rw [bind_apply, closing, manyUpTo_cons, takes]
        rfl
      exact ((each []).follows ⟨[], ignoreBlanks, names⟩ trivial).congr alone closed
  | true =>
      have fails := (ends.resolve_left (by simp [takes])) [] ⟨[], ignoreBlanks, names⟩ rfl
      refine .parted (fun result after done => ?_) fun result after done => ?_
      · cases fails.symm.trans (alone.symm.trans done)
      obtain ⟨found, between, read, done⟩ := bind_eq_some_iff.mp done
      change manyUpTo belongs (fuel + 1) ⟨')' :: ['$'], ignoreBlanks, names⟩ = _ at read
      rw [manyUpTo_cons, takes, if_pos rfl] at read
      obtain ⟨_, _, stepped, read⟩ := bind_eq_some_iff.mp read
      obtain ⟨_, _, read, pure⟩ := bind_eq_some_iff.mp read
      cases pure
      exact ((each _).shrinks done).trans
        ((manyUpTo_suffix read).trans (steady_step.drops _ _ _ stepped))

theorem manyUpTo_follows (each : ∀ found, Steady anywhere count past (next found))
    (ends : belongs ')' = false ∨ ∀ found cursor, cursor.rest = [] → next found cursor = none)
    (fuel : Nat) (before : Cursor) : Follows past (manyUpTo belongs fuel >>= next) before := by
  induction fuel generalizing next before with
  | zero => exact (each []).follows before trivial
  | succ fuel inRest =>
      obtain ⟨rest, ignoreBlanks, names⟩ := before
      cases rest with
      | nil => exact manyUpTo_follows_nil each ends fuel ignoreBlanks names
      | cons character rest =>
          have opened (behind : List Char) :
              (manyUpTo belongs (fuel + 1) >>= next)
                  ⟨character :: (rest ++ behind), ignoreBlanks, names⟩ =
                (if belongs character then
                  step >>= fun _ => manyUpTo belongs fuel >>= fun found => next (character :: found)
                else next []) ⟨character :: (rest ++ behind), ignoreBlanks, names⟩ := by
            rw [bind_apply, manyUpTo_cons]
            split
            case isFalse => rfl
            case isTrue =>
              simp only [bind_apply, Option.bind_assoc]
              rfl
          have alone := opened []
          rw [List.append_nil] at alone
          refine Follows.congr ?_ alone (opened closing)
          split
          case isFalse => exact (each []).follows _ trivial
          case isTrue =>
            refine (steady_step.follows _ (inside_cons _ _ _ _)).bind
              (fun _ _ stepped => steady_step.shrinks stepped) ?_ ?_ ?_
            · intro _ between result after done
              obtain ⟨_, _, read, done⟩ := bind_eq_some_iff.mp done
              exact ((each _).shrinks done).trans (manyUpTo_suffix read)
            · intro _ between _
              exact inRest (fun _ => each _) (ends.imp_right fun fails _ => fails _) between
            · intro _ between result after isPast done
              obtain ⟨_, _, read, done⟩ := bind_eq_some_iff.mp done
              exact ((each _).shrinks done).trans ((manyUpTo_suffix read).trans isPast)

theorem Steady.many (each : ∀ found, Steady anywhere count past (next found))
    (ends : belongs ')' = false ∨ ∀ found cursor, cursor.rest = [] → next found cursor = none) :
    Steady anywhere count past (Reader.many belongs >>= next) where
  drops before result after done := by
    obtain ⟨_, _, read, done⟩ := bind_eq_some_iff.mp done
    exact ((each _).drops _ _ _ done).trans (drop_suffix_drop (manyUpTo_suffix read) count)
  follows before _ := by
    refine (manyUpTo_follows each ends before.closed.rest.length before).congr ?_ rfl
    have longer : before.rest.length ≤ before.closed.rest.length := by
      rw [Cursor.closed, List.length_append]
      exact Nat.le_add_right _ _
    exact bind_eq_bind (manyUpTo_eq_of_le (Nat.le_refl _) longer) fun _ _ _ => rfl

theorem steady_many (stays : belongs ')' = false) : Steady anywhere 0 past (many belongs) := by
  rw [← bind_pure (many belongs)]
  exact .many (fun _ => steady_pure _) (.inl stays)

end Runs

/-- Passing over text in a way that the closing text does not change. -/
theorem steady_setRest {leftover : Unit → Cursor → Prop} {beyond : List Char → List Char}
    (suffix : ∀ text, beyond text <:+ text)
    (closed : ∀ text, beyond (text ++ closing) = beyond text ++ closing) :
    Steady anywhere 0 leftover (rest >>= fun left => setRest (beyond left)) where
  drops := by
    rintro before _ _ ⟨⟩
    exact suffix _
  follows before _ := by
    refine .alike ?_
    change some ((), { before.closed with rest := beyond (before.rest ++ closing) }) = _
    rw [closed]
    rfl

theorem dropWhile_closing {belongs : Char → Bool} (stays : belongs ')' = false)
    (text : List Char) :
    (text ++ closing).dropWhile belongs = text.dropWhile belongs ++ closing := by
  rw [List.dropWhile_append]
  split
  case isTrue nothing => simp [List.isEmpty_iff.mp nothing, closing, stays]
  case isFalse => rfl

theorem steady_decimal : Steady anywhere 0 past decimal := by
  have skips : Steady anywhere 0 past (rest >>= fun left => setRest (left.dropWhile isBlank)) :=
    steady_setRest (fun _ => List.dropWhile_suffix _) (dropWhile_closing (by decide))
  have digits : Steady anywhere 0 past (many Char.isDigit) := steady_many (by decide)
  have blanks : Steady anywhere 0 past (Functor.discard (many isBlank)) :=
    (steady_many (by decide)).bind fun _ => steady_pure _
  rw [decimal, ← bind_assoc]
  exact skips.bind fun _ => digits.bind fun _ => blanks.bind fun _ =>
    .ite steady_failure (steady_pure _)

theorem decimal_closing {before : Cursor} (atClosing : before.rest = closing) :
    decimal before = none := by
  obtain ⟨rest, ignoreBlanks, names⟩ := before
  cases atClosing
  rfl

theorem counted_of_step {before between : Cursor} (stepped : step before = some ((), between))
    (atClosing : between.rest = closing) : counted before = none := by
  change (step >>= fun _ => decimal >>= _) before = none
  rw [bind_apply, stepped, Option.bind_some, bind_apply, decimal_closing atClosing]
  rfl

theorem steady_character (code : Nat) {leftover : Char → Cursor → Prop} :
    Steady anywhere 0 leftover (character code) :=
  .ite (steady_pure _) steady_failure

theorem steady_fixedHex (count : Nat) : Steady anywhere 0 past (fixedHex count) := by
  induction count with
  | zero => exact steady_pure _
  | succ count inRest =>
      refine .current (fun digit => .ite ?_ steady_failure) ?_
      · exact steady_step.uncounted.bind fun _ => inRest.bind fun _ => steady_pure _
      · rintro before result after atClosing ⟨⟩

theorem fixedHex_closing {count : Nat} {before : Cursor} (some : count ≠ 0)
    (atClosing : before.rest = closing) : fixedHex count before = none := by
  obtain ⟨rest, ignoreBlanks, names⟩ := before
  cases atClosing
  obtain ⟨fewer, rfl⟩ := Nat.exists_eq_succ_of_ne_zero some
  rfl

theorem steady_codePoint (kind : Char) : Steady inside 1 past (codePoint kind) := by
  have finish (digits : List Char) : Steady anywhere 0 past (do
      if (← current) ≠ '\x7d' then failure
      step
      return (⟨← character (hexValue digits), false⟩ : Literal)) := by
    refine .current (fun _ => ?_) nofun
    have last : Steady inside 0 past (do
        step
        return (⟨← character (hexValue digits), false⟩ : Literal)) :=
      steady_step.uncounted.bind fun _ => (steady_character _).bind fun _ => steady_pure _
    exact .ite steady_failure last
  refine steady_step.bind fun _ => .current (fun mark => ?_) ?_
  · have digits : Steady anywhere 0 past (many isHexDigit) := steady_many (by decide)
    refine .ite (steady_step.uncounted.bind fun _ => digits.bind fun digits => ?_) ?_
    · exact .ite steady_failure (finish digits)
    · have digits := steady_fixedHex (if kind = 'x' then 2 else if kind = 'u' then 4 else 8)
      exact (digits.bind fun _ => (steady_character _).bind fun _ => steady_pure _).restrict
  · intro before result after atClosing done
    rw [if_neg (by decide)] at done
    obtain ⟨_, _, read, _⟩ := bind_eq_some_iff.mp done
    have some : (if kind = 'x' then 2 else if kind = 'u' then 4 else 8) ≠ 0 := by
      split
      · decide
      · split <;> decide
    rw [fixedHex_closing some atClosing] at read
    cases read

theorem steady_propertyClass (negated : Bool) : Steady inside 1 past (propertyClass negated) := by
  refine steady_step.bind fun _ => .current (fun first => .ite ?_ (.ite steady_failure ?_)) ?_
  · refine steady_step.uncounted.bind fun _ => .many (fun name => ?_) (.inr ?_)
    · exact (steady_expect _).uncounted.bind fun _ => steady_pure _
    · rintro name ⟨rest, ignoreBlanks, names⟩ ⟨⟩
      rfl
  · exact steady_step.uncounted.bind fun _ => steady_pure _
  · intro before result after atClosing done
    rw [if_neg (by decide), if_neg (by decide)] at done
    have shorter := (steady_step.bind fun _ => steady_pure _).drops _ _ _ done
    rwa [atClosing] at shorter

/-- Before braces that hold no count. -/
def atBraces (after : Cursor) : Prop := after.rest.head? = some '\x7b' ∧ counted after = none

/-- What a reading of a word boundary leaves over: less than the closing text, or braces that
hold neither a name nor a count. -/
def dangling (kind : AnchorKind) (after : Cursor) : Prop := past kind after ∨ atBraces after

def hanging (tree : Tree) (after : Cursor) : Prop :=
  past tree after ∨ (∃ kind, tree = .anchor kind) ∧ atBraces after

def isNamePart (character : Char) : Bool := character.isAlpha || character == '-'

/-- The name in the braces of a word boundary. -/
def namedBoundary : Reader AnchorKind := do
  let name ← many isNamePart
  expect '\x7d'
  match String.ofList name with
  | "start" => return .wordStart
  | "end" => return .wordEnd
  | "start-half" => return .wordStartHalf
  | "end-half" => return .wordEndHalf
  | _ => failure

/-- A word boundary with braces behind it. -/
def bracedBoundary : Reader AnchorKind := do
  let start ← get
  step
  if isNamePart (← current) then namedBoundary
  else
    set start
    return .wordBoundary

theorem boundaryName_eq (before : Cursor) :
    boundaryName before =
      if before.rest.head? = some '\x7b' then bracedBoundary before
      else some (.wordBoundary, before) := by
  change (if before.rest.head? ≠ some '\x7b' then _ else _ : Reader AnchorKind) before = _
  by_cases braces : before.rest.head? = some '\x7b'
  · rw [if_neg (not_not.mpr braces), if_pos braces]
    rfl
  · rw [if_pos braces, if_neg braces]
    rfl

theorem steady_namedBoundary : Steady anywhere 0 past namedBoundary := by
  have name : Steady anywhere 0 past (many isNamePart) := steady_many (by decide)
  refine name.bind fun name => (steady_expect _).uncounted.bind fun _ => ?_
  split <;> first | exact steady_pure _ | exact steady_failure

theorem bracedBoundary_eq {before between : Cursor} (stepped : step before = some ((), between)) :
    bracedBoundary before = between.rest.head?.bind fun first =>
      if isNamePart first then namedBoundary between else some (.wordBoundary, before) := by
  have opened : bracedBoundary before = (step >>= fun _ => current >>= fun first =>
      if isNamePart first then namedBoundary
      else set before >>= fun _ => pure .wordBoundary) before := rfl
  rw [opened, bind_apply, stepped, Option.bind_some]
  obtain ⟨rest, ignoreBlanks, names⟩ := between
  cases rest with
  | nil => rfl
  | cons first rest =>
      change (if isNamePart first = true then _ else _ : Reader _) _ = if _ then _ else _
      split <;> rfl

theorem bracedBoundary_shrinks {before after : Cursor} {kind : AnchorKind}
    (read : bracedBoundary before = some (kind, after)) : after.rest <:+ before.rest := by
  obtain ⟨between, stepped⟩ : ∃ between, step before = some ((), between) := ⟨_, rfl⟩
  rw [bracedBoundary_eq stepped] at read
  obtain ⟨first, _, read⟩ := Option.bind_eq_some_iff.mp read
  split at read
  · exact (steady_namedBoundary.shrinks read).trans
      (steady_step.shrinks stepped)
  · cases read
    exact List.suffix_refl _

/-- Before the braces end the pattern alone fails; the closing text makes them no name. -/
theorem bracedBoundary_follows {before : Cursor} (braces : before.rest.head? = some '\x7b') :
    Follows dangling bracedBoundary before := by
  have isInside : inside before := by
    intro nothing
    rw [nothing] at braces
    cases braces
  obtain ⟨between, stepped⟩ : ∃ between, step before = some ((), between) := ⟨_, rfl⟩
  cases steady_step.follows before isInside with
  | parted spent beyond =>
      obtain ⟨nothing, _, closed⟩ := spent _ _ stepped
      refine .alike ?_
      rw [bracedBoundary_eq stepped, bracedBoundary_eq closed, nothing]
      rfl
  | alike same =>
      have closed : step before.closed = some ((), between.closed) := by rw [same, stepped]; rfl
      obtain ⟨rest, ignoreBlanks, names⟩ := between
      cases rest with
      | nil =>
          refine .parted ?_ ?_
          · rw [bracedBoundary_eq stepped]
            nofun
          · rw [bracedBoundary_eq closed]
            rintro _ _ ⟨⟩
            refine .inr ⟨?_, counted_of_step closed rfl⟩
            rw [Cursor.closed, List.head?_append, braces, Option.some_or]
      | cons first rest =>
          have alone := bracedBoundary_eq stepped
          have behind := bracedBoundary_eq closed
          simp only [Cursor.closed, List.cons_append, List.head?_cons, Option.bind_some] at alone behind
          by_cases isName : isNamePart first = true
          · simp only [isName, if_true] at alone behind
            have named := steady_namedBoundary.follows ⟨first :: rest, ignoreBlanks, names⟩ trivial
            exact (named.mono fun _ _ => .inl).onward (steady_step.shrinks stepped) alone behind
          · simp only [isName] at alone behind
            exact .alike (by rw [alone]; exact behind)

theorem steady_boundaryName : Steady anywhere 0 dangling boundaryName where
  drops before result after done := by
    rw [boundaryName_eq] at done
    split at done
    · exact bracedBoundary_shrinks done
    · cases done
      exact List.suffix_refl _
  follows before _ := by
    have sameHead : before.closed.rest.head? = some '\x7b' ↔ before.rest.head? = some '\x7b' := by
      rw [Cursor.closed]
      cases before.rest with
      | nil => simp [closing]
      | cons => rfl
    have alone := boundaryName_eq before
    have behind := boundaryName_eq before.closed
    by_cases braces : before.rest.head? = some '\x7b'
    · rw [if_pos braces] at alone
      rw [if_pos (sameHead.mpr braces)] at behind
      exact (bracedBoundary_follows braces).congr alone behind
    · rw [if_neg braces] at alone
      rw [if_neg (sameHead.not.mpr braces)] at behind
      exact .alike (by rw [alone, behind]; rfl)

theorem steady_escape : Steady anywhere 1 hanging escape := by
  refine (steady_expect _).bindWeaker (fun _ => .current (fun kind => ?_) ?_) fun _ _ => .inl
  · refine .ite ?_ (.ite ?_ (steady_advance.uncounted.bindWeaker (fun _ => ?_) fun _ _ => .inl))
    · exact ((steady_codePoint kind).uncounted.bind fun _ => steady_pure _).mono fun _ _ => .inl
    · exact ((steady_propertyClass _).uncounted.bind fun _ => steady_pure _).mono fun _ _ => .inl
    · split
      · exact steady_pure _
      · exact steady_pure _
      · refine .ite (steady_pure _) ?_
        split
        case h_3 =>
          refine steady_boundaryName.bindOnward (fun kind => steady_pure _) ?_
          rintro kind before _ _ leftOver ⟨⟩
          exact leftOver.imp id fun braces => ⟨⟨kind, rfl⟩, braces⟩
        all_goals first | exact steady_pure _ | exact steady_failure
  · rintro ⟨rest, ignoreBlanks, names⟩ result after atClosing done
    cases atClosing
    cases done
    exact .inl (List.suffix_refl _)

end DocShape.Pattern.Reader
