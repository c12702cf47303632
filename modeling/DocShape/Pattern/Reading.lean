import DocShape.Pattern.CharSet
import DocShape.Pattern.Tree

namespace DocShape.Pattern

/-! Reading patterns.

A reader works on the characters left and fails on the first fault; what is wrong with a
pattern is not told apart.  Every loop takes as fuel the number of characters left, and
each of its rounds uses one up.
-/

open DocShape.Unicode

structure Cursor where
  rest : List Char
  /-- Blanks and comments between the parts of a pattern are passed over. -/
  ignoreBlanks : Bool
  names : List String

abbrev Reader := StateT Cursor Option

namespace Reader

def isBlank (character : Char) : Bool :=
  if character.toNat < 0x80 then
    character == ' ' || decide (0x09 ≤ character.toNat ∧ character.toNat ≤ 0x0d)
  else Property.whiteSpace.contains character.toNat

/-- The text past blanks and comments, from within a comment or not. -/
def afterBlanks : Bool → List Char → List Char
  | _, [] => []
  | true, character :: rest => afterBlanks (character != '\n') rest
  | false, character :: rest =>
      if isBlank character then afterBlanks false rest
      else if character = '#' then afterBlanks true rest
      else character :: rest

def rest : Reader (List Char) := return (← get).rest

def peek? : Reader (Option Char) := return (← get).rest.head?

def setRest (rest : List Char) : Reader Unit :=
  modify fun cursor => { cursor with rest }

def skipBlanks : Reader Unit :=
  modify fun cursor =>
    if cursor.ignoreBlanks then { cursor with rest := afterBlanks false cursor.rest } else cursor

def advance : Reader Unit :=
  modify fun cursor => { cursor with rest := cursor.rest.drop 1 }

/-- Past one character and the blanks after it. -/
def step : Reader Unit := do advance; skipBlanks

def current : Reader Char := do
  match (← get).rest with
  | character :: _ => return character
  | [] => failure

def expect (character : Char) : Reader Unit := do
  if (← current) = character then advance else failure

def accept (text : String) : Reader Bool := do
  let characters := text.toList
  let left ← rest
  if characters.isPrefixOf left then
    setRest (left.drop characters.length)
    return true
  else return false

/-- The characters for which `belongs` holds, with blanks between them passed over. -/
def manyUpTo (belongs : Char → Bool) : Nat → Reader (List Char)
  | 0 => return []
  | fuel + 1 => do
      match (← get).rest with
      | character :: _ =>
          if belongs character then
            step
            return character :: (← manyUpTo belongs fuel)
          else return []
      | [] => return []

def many (belongs : Char → Bool) : Reader (List Char) := do
  manyUpTo belongs (← rest).length

/-! ### Numbers and code points -/

/-- A decimal number of 32 bits, with blanks around it. -/
def decimal : Reader Nat := do
  setRest ((← rest).dropWhile isBlank)
  let digits ← many Char.isDigit
  discard <| many isBlank
  let value := digits.foldl (fun value digit => value * 10 + (digit.toNat - '0'.toNat)) 0
  if digits.isEmpty || value ≥ Nat.pow 2 32 then failure else return value

def isHexDigit (character : Char) : Bool :=
  character.isDigit || decide ('a' ≤ character ∧ character ≤ 'f') ||
    decide ('A' ≤ character ∧ character ≤ 'F')

def hexValue (digits : List Char) : Nat :=
  Ranges.hexNumber (String.ofList (digits.map Char.toUpper))

def character (code : Nat) : Reader Char :=
  if code < 0xd800 || (0xdfff < code && code < 0x110000) then return Char.ofNat code
  else failure

def fixedHex : Nat → Reader (List Char)
  | 0 => return []
  | count + 1 => do
      let digit ← current
      if isHexDigit digit then
        step
        return digit :: (← fixedHex count)
      else failure

/-- A code point after `\x`, `\u` or `\U`, with a fixed number of digits or in braces. -/
def codePoint (kind : Char) : Reader Literal := do
  step
  if (← current) = '\x7b' then
    step
    let digits ← many isHexDigit
    if digits.isEmpty then failure
    if (← current) ≠ '\x7d' then failure
    step
    return ⟨← character (hexValue digits), false⟩
  else
    let digits ← fixedHex (if kind = 'x' then 2 else if kind = 'u' then 4 else 8)
    return ⟨← character (hexValue digits), kind = 'x'⟩

/-! ### Escapes -/

def splitFirst? (separator : List Char) : List Char → Option (List Char × List Char)
  | [] => none
  | character :: rest =>
      if separator.isPrefixOf (character :: rest) then
        some ([], (character :: rest).drop separator.length)
      else
        (splitFirst? separator rest).map fun parts => (character :: parts.1, parts.2)

def propertyQuery (text : List Char) : PropertyQuery :=
  match splitFirst? ['!', '='] text <|> splitFirst? [':'] text <|> splitFirst? ['='] text with
  | some (property, value) => .value (String.ofList property) (String.ofList value)
  | none => .name (String.ofList text)

def propertyClass (negated : Bool) : Reader ClassEscape := do
  step
  let first ← current
  if first = '\x7b' then
    step
    let name ← many (· != '\x7d')
    expect '\x7d'
    return .property (propertyQuery name) negated
  else if first = '\\' then failure
  else
    step
    return .property (.name first.toString) negated

/-- Characters with a meaning of their own somewhere in a pattern. -/
def isMeta (character : Char) : Bool :=
  ['\\', '.', '+', '*', '?', '(', ')', '|', '[', ']', '\x7b', '\x7d', '^', '$', '#', '&', '-',
    '~'].contains character

/-- Characters that a backslash may stand before without giving them a meaning. -/
def isEscapable (character : Char) : Bool :=
  isMeta character ||
    (decide (character.toNat < 0x80) && !character.isAlphanum && character != '<' &&
      character != '>')

/-- The kind of a word boundary, named in braces after it.  Braces that cannot hold a name
are left for a repetition. -/
def boundaryName : Reader AnchorKind := do
  let start ← get
  if (← peek?) ≠ some '\x7b' then return .wordBoundary
  let belongs := fun character : Char => character.isAlpha || character == '-'
  step
  if belongs (← current) then
    let name ← many belongs
    expect '\x7d'
    match String.ofList name with
    | "start" => return .wordStart
    | "end" => return .wordEnd
    | "start-half" => return .wordStartHalf
    | "end-half" => return .wordEndHalf
    | _ => failure
  else
    set start
    return .wordBoundary

def controlLiteral? : Char → Option Char
  | 'a' => some '\x07'
  | 'f' => some '\x0c'
  | 't' => some '\t'
  | 'n' => some '\n'
  | 'r' => some '\r'
  | 'v' => some '\x0b'
  | _ => none

def perlClass? : Char → Option ClassEscape
  | 'd' => some (.perl .digit false)
  | 'D' => some (.perl .digit true)
  | 's' => some (.perl .blank false)
  | 'S' => some (.perl .blank true)
  | 'w' => some (.perl .word false)
  | 'W' => some (.perl .word true)
  | _ => none

def escape : Reader Tree := do
  expect '\\'
  let kind ← current
  if kind = 'x' ∨ kind = 'u' ∨ kind = 'U' then
    return .literal (← codePoint kind)
  else if kind = 'p' ∨ kind = 'P' then
    return .escape (← propertyClass (kind = 'P'))
  else
    advance
    match perlClass? kind, controlLiteral? kind with
    | some found, _ => return .escape found
    | none, some found => return .literal ⟨found, false⟩
    | none, none =>
        if isEscapable kind then return .literal ⟨kind, false⟩
        match kind with
        | 'A' => return .anchor .textStart
        | 'z' => return .anchor .textEnd
        | 'b' => return .anchor (← boundaryName)
        | 'B' => return .anchor .notWordBoundary
        | '<' => return .anchor .wordStart
        | '>' => return .anchor .wordEnd
        | _ => failure

/-! ### Classes in brackets -/

def asciiRanges? : String → Option Ranges
  | "alnum" => some [(0x30, 0x39), (0x41, 0x5a), (0x61, 0x7a)]
  | "alpha" => some [(0x41, 0x5a), (0x61, 0x7a)]
  | "ascii" => some [(0x00, 0x7f)]
  | "blank" => some [(0x09, 0x09), (0x20, 0x20)]
  | "cntrl" => some [(0x00, 0x1f), (0x7f, 0x7f)]
  | "digit" => some [(0x30, 0x39)]
  | "graph" => some [(0x21, 0x7e)]
  | "lower" => some [(0x61, 0x7a)]
  | "print" => some [(0x20, 0x7e)]
  | "punct" => some [(0x21, 0x2f), (0x3a, 0x40), (0x5b, 0x60), (0x7b, 0x7e)]
  | "space" => some [(0x09, 0x0d), (0x20, 0x20)]
  | "upper" => some [(0x41, 0x5a)]
  | "word" => some [(0x30, 0x39), (0x41, 0x5a), (0x5f, 0x5f), (0x61, 0x7a)]
  | "xdigit" => some [(0x30, 0x39), (0x41, 0x46), (0x61, 0x66)]
  | _ => none

/-- A class such as `[:alpha:]`, if the text starts with one, and the text after it. -/
def asciiClass? (text : List Char) : Option (ClassSet × List Char) := do
  let inner ← if ['[', ':'].isPrefixOf text then some (text.drop 2) else none
  let negated := inner.head? == some '^'
  let (name, after) ← splitFirst? [':'] (if negated then inner.drop 1 else inner)
  if after.head? = some ']' then
    let members ← asciiRanges? (String.ofList name)
    return (.ascii members negated, after.drop 1)
  else none

/-- A literal or an escape as an item of a class; anchors have no place in one. -/
def classItem : Tree → Reader ClassSet
  | .literal literal => return .literal literal
  | .escape found => return .escape found
  | _ => failure

def classPart : Reader Tree := do
  let first ← current
  if first = '\\' then escape
  else
    advance
    return .literal ⟨first, false⟩

/-- What follows a dash, past blanks and at most one number sign. -/
def afterDash? (ignoreBlanks : Bool) (text : List Char) : Option Char :=
  if ignoreBlanks then
    let beyond :=
      match text.dropWhile isBlank with
      | '#' :: comment => comment.dropWhile isBlank
      | other => other
    beyond.head? <|> text.head?
  else text.head?

/-- A single item of a class, or a range between two literals. -/
def classRange : Reader ClassSet := do
  let first ← classPart
  skipBlanks
  match (← get).rest with
  | [] => failure
  | '-' :: text =>
      let next := afterDash? (← get).ignoreBlanks text
      if next = some ']' ∨ next = some '-' then classItem first
      else
        step
        match first, (← classPart) with
        | .literal low, .literal high =>
            if low.character ≤ high.character then return .range low high else failure
        | _, _ => failure
  | _ => classItem first

/-- The start of a class: whether it is negated, and the dashes or the bracket that stand
for themselves there. -/
def classStart : Reader (Bool × List ClassSet) := do
  expect '['
  skipBlanks
  let negated := (← current) == '^'
  if negated then step
  let dashes ← many (· == '-')
  let next ← current
  let literal := fun character : Char => ClassSet.literal ⟨character, false⟩
  if dashes.isEmpty && next == ']' then
    step
    discard current
    return (negated, [literal ']'])
  else return (negated, dashes.map literal)

def classOperation? : List Char → Option SetOperation
  | '&' :: '&' :: _ => some .intersection
  | '-' :: '-' :: _ => some .difference
  | '~' :: '~' :: _ => some .symmetricDifference
  | _ => none

/-- The items read so far, latest first, as the right side of the pending operation. -/
def combine (pending : Option (SetOperation × ClassSet)) (items : List ClassSet) : ClassSet :=
  let right := ClassSet.ofItems items.reverse
  match pending with
  | some (operation, left) => .operation operation left right
  | none => right

def classBody : Nat → Option (SetOperation × ClassSet) → List ClassSet → Reader ClassSet
  | 0, _, _ => failure
  | fuel + 1, pending, items => do
      skipBlanks
      let left ← rest
      match left with
      | [] => failure
      | ']' :: _ =>
          advance
          return combine pending items
      | '[' :: _ =>
          match asciiClass? left with
          | some (item, after) =>
              setRest after
              classBody fuel pending (item :: items)
          | none =>
              let (negated, opened) ← classStart
              let inner ← classBody fuel none opened.reverse
              classBody fuel pending (.bracketed negated inner :: items)
      | _ =>
          match classOperation? left with
          | some operation =>
              advance
              advance
              classBody fuel (some (operation, combine pending items)) []
          | none =>
              let item ← classRange
              classBody fuel pending (item :: items)

def classTree : Reader Tree := do
  let (negated, opened) ← classStart
  let inner ← classBody ((← rest).length + 1) none opened.reverse
  return .bracketed negated inner

/-! ### Groups -/

def flag? : Char → Option Flag
  | 'i' => some .ignoreCase
  | 'm' => some .multiLine
  | 's' => some .dotMatchesNewline
  | 'U' => some .swapGreed
  | 'u' => some .unicode
  | 'R' => some .crlf
  | 'x' => some .ignoreBlanks
  | _ => none

/-- Flags up to a colon or a closing parenthesis; each is named once, and at least one
follows a dash. -/
def flagChange (clearing : Bool) (change : FlagChange) : List Char → Option (FlagChange × List Char)
  | [] => none
  | character :: rest =>
      if character = ':' ∨ character = ')' then
        if clearing && change.cleared.isEmpty then none else some (change, character :: rest)
      else if character = '-' then
        if clearing then none else flagChange true change rest
      else
        match flag? character with
        | none => none
        | some flag =>
            if change.set.contains flag || change.cleared.contains flag then none
            else if clearing then
              flagChange clearing { change with cleared := change.cleared ++ [flag] } rest
            else flagChange clearing { change with set := change.set ++ [flag] } rest

def isLetter (character : Char) : Bool :=
  if character.toNat < 0x80 then character.isAlpha
  else Property.alphabetic.contains character.toNat

def isLetterOrNumber (character : Char) : Bool :=
  if character.toNat < 0x80 then character.isAlphanum
  else
    Property.alphabetic.contains character.toNat ||
      Category.numbers.any (·.contains character.toNat)

def isGroupName : List Char → Bool
  | [] => false
  | first :: rest =>
      (first == '_' || isLetter first) &&
        rest.all fun character =>
          ['_', '.', '[', ']'].contains character || isLetterOrNumber character

/-- A group's name, up to the angle bracket; no two groups share one. -/
def groupName : Reader Unit := do
  match splitFirst? ['>'] (← rest) with
  | some (name, after) =>
      let name' := String.ofList name
      if isGroupName name && !(← get).names.contains name' then
        setRest after
        modify fun cursor => { cursor with names := name' :: cursor.names }
      else failure
  | none => failure

inductive GroupStart where
  /-- Flags for what follows in the enclosing group. -/
  | flags (change : FlagChange)
  | group (change : FlagChange)

/-- The start of a group, from the parenthesis on.  Look-around is refused. -/
def groupStart : Reader GroupStart := do
  expect '('
  skipBlanks
  let refused ← ["?=", "?!", "?<=", "?<!"].anyM accept
  if refused then failure
  if ← accept "?P<" <||> accept "?<" then
    groupName
    return .group ⟨[], []⟩
  else if ← accept "?" then
    match flagChange false ⟨[], []⟩ (← rest) with
    | none => failure
    | some (change, after) =>
        setRest (after.drop 1)
        if after.head? = some ':' then return .group change
        else if change.set.isEmpty && change.cleared.isEmpty then failure
        else return .flags change
  else return .group ⟨[], []⟩

def blanksAfter (change : FlagChange) (before : Bool) : Bool :=
  if change.set.contains .ignoreBlanks then true
  else if change.cleared.contains .ignoreBlanks then false
  else before

def setIgnoreBlanks (ignoreBlanks : Bool) : Reader Unit :=
  modify fun cursor => { cursor with ignoreBlanks }

/-! ### Repetitions and alternatives -/

/-- The mark of a lazy repetition; which text is preferred makes no difference here. -/
def lazyMark : Reader Unit := do
  if (← peek?) = some '?' then advance

def counted : Reader (Nat × Option Nat) := do
  step
  let least ← decimal
  let most ←
    if (← peek?) = some ',' then do
      step
      if (← peek?) = some '\x7d' then pure none else pure (some (← decimal))
    else pure (some least)
  if (← current) ≠ '\x7d' then failure
  step
  lazyMark
  match most with
  | some bound => if bound < least then failure else return (least, most)
  | none => return (least, most)

def repetition : Reader (Nat × Option Nat) := do
  let mark ← current
  if mark = '\x7b' then counted
  else
    advance
    lazyMark
    return (if mark = '+' then 1 else 0, if mark = '?' then some 1 else none)

def primitive : Reader Tree := do
  let first ← current
  match first with
  | '\\' => escape
  | '.' => do advance; return .dot
  | '^' => do advance; return .anchor .lineStart
  | '$' => do advance; return .anchor .lineEnd
  | other => do advance; return .literal ⟨other, false⟩

/-- Alternatives up to the end of the enclosing group.  The branches and the parts of the
present branch are those read so far, latest first. -/
def alternatives : Nat → List Tree → List Tree → Reader Tree
  | 0, _, _ => failure
  | fuel + 1, branches, parts => do
      skipBlanks
      let finished := fun _ : Unit =>
        Tree.ofBranches ((Tree.ofParts parts.reverse :: branches).reverse)
      match (← get).rest with
      | [] => return finished ()
      | ')' :: _ => return finished ()
      | '|' :: _ =>
          advance
          alternatives fuel (Tree.ofParts parts.reverse :: branches) []
      | '(' :: _ =>
          let before := (← get).ignoreBlanks
          match ← groupStart with
          | .flags change =>
              setIgnoreBlanks (blanksAfter change before)
              alternatives fuel branches (.flags change :: parts)
          | .group change =>
              setIgnoreBlanks (blanksAfter change before)
              let inner ← alternatives fuel [] []
              expect ')'
              setIgnoreBlanks before
              alternatives fuel branches (.group change inner :: parts)
      | '[' :: _ =>
          let part ← classTree
          alternatives fuel branches (part :: parts)
      | first :: _ =>
          if ['?', '*', '+', '\x7b'].contains first then
            match parts with
            | part :: earlier =>
                if part.isRepeatable then
                  let (least, most) ← repetition
                  alternatives fuel branches (.repetition part least most :: earlier)
                else failure
            | [] => failure
          else
            let part ← primitive
            alternatives fuel branches (part :: parts)

end Reader

namespace Tree

def depthLimit : Nat := 250

/-- Reads a pattern, which must not end within a group or go on after one. -/
def read? (text : String) : Option Tree := do
  let characters := text.toList
  let start : Cursor := ⟨characters, false, []⟩
  let (tree, finish) ← (Reader.alternatives (characters.length + 1) [] []).run start
  if finish.rest.isEmpty && tree.depth ≤ depthLimit then some tree else none

end Tree
end DocShape.Pattern
