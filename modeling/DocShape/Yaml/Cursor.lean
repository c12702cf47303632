namespace DocShape.Yaml

/-! Positions in YAML text, and reading from them.

A reader works on the characters left and fails on the first fault; faults are not told
apart.  A `bound` argument is a number of rounds, and no smaller than the number of
characters left when the first round begins.
-/

def isBlank (character : Char) : Bool := character == ' ' || character == '\t'

def isBreak (character : Char) : Bool :=
  ['\n', '\r', '\x85', '\u2028', '\u2029'].contains character

def endsLine (next : Option Char) : Bool := next.all isBreak

def endsWord (next : Option Char) : Bool :=
  next.all fun character => isBlank character || isBreak character

def isNameCharacter (character : Char) : Bool :=
  character.isAlphanum || character == '-' || character == '_'

def isAllowed (character : Char) : Bool :=
  let code := character.toNat
  ['\t', '\n', '\r', '\x85'].contains character || decide (0x20 ≤ code ∧ code ≤ 0x7e) ||
    decide (0xa0 ≤ code ∧ code ≤ 0xfffd) || decide (0x10000 ≤ code)

def byteOrderMark : Char := '\ufeff'

structure Cursor where
  rest : List Char
  index : Nat
  line : Nat
  column : Nat

abbrev Reader := StateT Cursor Option

namespace Reader

def column : Reader Nat := return (← get).column

def peek? : Reader (Option Char) := return (← get).rest.head?

def second? : Reader (Option Char) := return (← get).rest[1]?

def nextIs (character : Char) : Reader Bool := return (← peek?) == some character

def skip (count : Nat) : Reader Unit :=
  modify fun cursor => { cursor with
    rest := cursor.rest.drop count
    index := cursor.index + count
    column := cursor.column + count }

def take (count : Nat) : Reader (List Char) := do
  let taken := (← get).rest.take count
  skip count
  return taken

/-- The characters of one line for which `belongs` holds. -/
def many (belongs : Char → Bool) : Reader (List Char) := do
  let taken := (← get).rest.takeWhile belongs
  skip taken.length
  return taken

def accept (character : Char) : Reader Bool := do
  if ← nextIs character then
    skip 1
    return true
  else return false

def expect (character : Char) : Reader Unit := do
  if ← accept character then return else failure

/-- A line break.  A return and a line feed make one break; all breaks but the two Unicode
separators are read as a line feed. -/
def lineBreak? : Reader (Option Char) := do
  let cursor ← get
  let past := fun (rest : List Char) (count : Nat) (found : Char) => do
    set { cursor with rest, index := cursor.index + count, line := cursor.line + 1, column := 0 }
    return some found
  match cursor.rest with
  | '\r' :: '\n' :: rest => past rest 2 '\n'
  | character :: rest =>
      if character == '\u2028' || character == '\u2029' then past rest 1 character
      else if isBreak character then past rest 1 '\n'
      else return none
  | [] => return none

def atMarker (mark : Char) : Reader Bool := do
  let cursor ← get
  return cursor.column == 0 && [mark, mark, mark].isPrefixOf cursor.rest &&
    endsWord cursor.rest[3]?

def atDocumentEdge : Reader Bool := do
  return (← atMarker '-') || (← atMarker '.')

def skipComment : Reader Unit := do
  if ← nextIs '#' then discard <| many fun character => !isBreak character

/-- The blanks, the comment and the break at the end of a line that holds nothing else. -/
def finishLine : Reader Unit := do
  discard <| many isBlank
  skipComment
  if endsLine (← peek?) then discard lineBreak? else failure

end Reader
end DocShape.Yaml
