import DocShape.Yaml.Cursor

namespace DocShape.Yaml

/-! The four written forms of scalars. -/

open Reader

/-- Blanks and line breaks between two words.  Blanks around a break do not count. -/
structure Gap where
  blanks : List Char
  breaks : List Char

namespace Gap

def none : Gap := ⟨[], []⟩

def isEmpty (gap : Gap) : Bool := gap.blanks.isEmpty && gap.breaks.isEmpty

def isBroken (gap : Gap) : Bool := !gap.breaks.isEmpty

/-- A single line feed becomes a space, and of several the first one is dropped. -/
def folded (gap : Gap) : List Char :=
  match gap.breaks with
  | [] => gap.blanks
  | ['\n'] => [' ']
  | '\n' :: more => more
  | breaks => breaks

end Gap

namespace Reader

/-- The blanks at the start of a line, with no tab left of a column. -/
def skipMargin (tabColumn : Nat) : Reader Unit := do
  let blanks ← many isBlank
  if (blanks.take tabColumn).contains '\t' then failure

/-- Line breaks and the blanks after each of them, in reverse order after those in `found`. -/
def breaksFrom (tabColumn : Nat) : Nat → List Char → Reader (List Char)
  | 0, _ => failure
  | bound + 1, found => do
      match ← lineBreak? with
      | some character =>
          skipMargin tabColumn
          breaksFrom tabColumn bound (character :: found)
      | none => return found.reverse

def gap (bound tabColumn : Nat) : Reader Gap := do
  let blanks ← many isBlank
  return ⟨blanks, ← breaksFrom tabColumn (bound + 1) []⟩

def isFlowIndicator (character : Char) : Bool := [',', '[', ']', '{', '\x7d'].contains character

/-- How many characters come before a blank or an indicator.  Within brackets a colon may not
stand in front of an indicator. -/
def wordLength? (inFlow : Bool) (count : Nat) : List Char → Option Nat
  | [] => some count
  | character :: rest =>
      if isBlank character || isBreak character then some count
      else if inFlow && character == ':' &&
          rest.head?.any fun next => isFlowIndicator next || next == '?' then
        none
      else if character == ':' && endsWord rest.head? || inFlow && isFlowIndicator character then
        some count
      else wordLength? inFlow (count + 1) rest

/-- A plain scalar from a word on, given what was written before in reverse order and the gap
after it.  Tells also whether the text goes on in another line. -/
def plainFrom (inFlow : Bool) (indent : Nat) : Nat → Gap → List Char → Reader (List Char × Bool)
  | 0, _, _ => failure
  | bound + 1, before, written => do
      if (← atDocumentEdge) || (← nextIs '#') then
        return (written.reverse, before.isBroken)
      let count ← wordLength? inFlow 0 (← get).rest
      if count = 0 then return (written.reverse, before.isBroken)
      let word ← take count
      let written := word.reverseAux (before.folded.reverseAux written)
      let after ← gap bound indent
      if after.isEmpty || !inFlow && (← column) < indent then
        return (written.reverse, after.isBroken)
      plainFrom inFlow indent bound after written

def isHexDigit (character : Char) : Bool :=
  character.isDigit || decide ('a' ≤ character ∧ character ≤ 'f') ||
    decide ('A' ≤ character ∧ character ≤ 'F')

def hexDigit (character : Char) : Nat :=
  if character.isDigit then character.toNat - '0'.toNat
  else character.toLower.toNat - 'a'.toNat + 10

def hexNumber (digits : List Char) : Nat :=
  digits.foldl (fun value digit => value * 16 + hexDigit digit) 0

def codePoint (count : Nat) : Reader Char := do
  let digits ← take count
  if digits.length < count || !digits.all isHexDigit then failure
  let code := hexNumber digits
  if code < 0xd800 || (0xdfff < code && code < 0x110000) then return Char.ofNat code
  else failure

def escaped : Reader Char := do
  let some character ← peek? | failure
  skip 1
  match character with
  | '0' => return '\x00'
  | 'a' => return '\x07'
  | 'b' => return '\x08'
  | 't' | '\t' => return '\t'
  | 'n' => return '\n'
  | 'v' => return '\x0b'
  | 'f' => return '\x0c'
  | 'r' => return '\r'
  | 'e' => return '\x1b'
  | ' ' => return ' '
  | '"' => return '"'
  | '/' => return '/'
  | '\\' => return '\\'
  | 'N' => return '\x85'
  | '_' => return '\xa0'
  | 'L' => return '\u2028'
  | 'P' => return '\u2029'
  | 'x' => codePoint 2
  | 'u' => codePoint 4
  | 'U' => codePoint 8
  | _ => failure

/-- A quoted scalar up to its closing mark, after what was read in reverse order. -/
def quotedFrom (mark : Char) : Nat → List Char → Reader (List Char)
  | 0, _ => failure
  | bound + 1, written => do
      if ← atDocumentEdge then failure
      let some character ← peek? | failure
      if isBlank character || isBreak character then
        quotedFrom mark bound ((← gap bound 0).folded.reverseAux written)
      else if character == mark then
        skip 1
        if mark == '\'' && (← accept mark) then quotedFrom mark bound (mark :: written)
        else return written.reverse
      else if character == '\\' && mark == '"' then
        skip 1
        match ← lineBreak? with
        | some _ =>
            discard <| many isBlank
            quotedFrom mark bound ((← breaksFrom 0 (bound + 1) []).reverseAux written)
        | none => quotedFrom mark bound ((← escaped) :: written)
      else
        skip 1
        quotedFrom mark bound (character :: written)

/-- Which of the breaks at the end of a block scalar belong to it. -/
inductive Chomping where
  | strip
  | clip
  | keep

def chomping? : Reader (Option Chomping) := do
  if ← accept '+' then return some .keep
  else if ← accept '-' then return some .strip
  else return none

/-- An indentation given by a digit, which may not be zero. -/
def indentation? : Reader (Option Nat) := do
  match ← peek? with
  | some character =>
      if !character.isDigit then return none
      if character == '0' then failure
      skip 1
      return some (character.toNat - '0'.toNat)
  | none => return none

/-- What follows the mark of a block scalar, in either order. -/
def blockHeader : Reader (Chomping × Option Nat) := do
  match ← chomping? with
  | some chomping => return (chomping, ← indentation?)
  | none =>
      match ← indentation? with
      | some indentation => return ((← chomping?).getD .clip, some indentation)
      | none => return (.clip, none)

/-- Empty lines in front of a line of a block scalar.  With them comes the greatest column
that was reached, and the cursor stands at the indentation if one is given. -/
def emptyLines (indent : Option Nat) : Nat → Nat → List Char → Reader (Nat × List Char)
  | 0, _, _ => failure
  | bound + 1, deepest, found => do
      let spaces := ((← get).rest.takeWhile (· == ' ')).length
      let reached ← column
      skip (match indent with | some limit => min spaces (limit - reached) | none => spaces)
      let reached ← column
      if (indent.all fun limit => reached < limit) && (← nextIs '\t') then failure
      match ← lineBreak? with
      | some character => emptyLines indent bound (max deepest reached) (character :: found)
      | none => return (max deepest reached, found.reverse)

structure Lines where
  written : List Char
  ending : Option Char
  breaks : List Char
  startedBlank : Bool

namespace Lines

def joint (lines : Lines) (folds blank : Bool) : List Char :=
  if folds && lines.ending == some '\n' && !lines.startedBlank && !blank then
    if lines.breaks.isEmpty then [' '] else lines.breaks
  else lines.ending.toList ++ lines.breaks

def finish (lines : Lines) (chomping : Chomping) : List Char :=
  let ending :=
    match chomping with
    | .strip => []
    | .clip => lines.ending.toList
    | .keep => lines.ending.toList ++ lines.breaks
  lines.written.reverse ++ ending

end Lines

def blockLines (folds : Bool) (indent : Nat) : Nat → Lines → Reader Lines
  | 0, _ => failure
  | bound + 1, lines => do
      let next ← peek?
      if (← column) = indent && next.isSome then
        let blank := next.any isBlank
        let line ← many fun character => !isBreak character
        let written := line.reverseAux ((lines.joint folds blank).reverseAux lines.written)
        let ending ← lineBreak?
        let (_, breaks) ← emptyLines (some indent) (bound + 1) 0 []
        blockLines folds indent bound ⟨written, ending, breaks, blank⟩
      else return lines

/-- A block scalar in a block whose indentation is `outer`, -1 if there is none. -/
def block (folds : Bool) (outer : Int) (bound : Nat) : Reader (List Char) := do
  skip 1
  let (chomping, indentation) ← blockHeader
  finishLine
  let least := (outer + 1).toNat
  let given := indentation.map fun further => (max outer 0).toNat + further
  let (deepest, breaks) ← emptyLines given (bound + 1) 0 []
  let indent := given.getD (max (max deepest least) 1)
  let lines ← blockLines folds indent (bound + 1) ⟨[], none, breaks, false⟩
  return lines.finish chomping

end Reader
end DocShape.Yaml
