import DocShape.Yaml.Token

namespace DocShape.Yaml

/-! The tokens of a text, with the structure that indentation expresses made explicit.

Whether a node is a mapping key shows only at the colon after it.  A place where a key may
begin is kept as a candidate; when the colon comes, the tokens that start the key go in
front of the node.
-/

/-- A node that is a key if a colon follows on the same line. -/
structure KeyCandidate where
  /-- The node is at the indentation of a block, where only keys may be. -/
  isRequired : Bool
  place : Nat
  index : Nat
  line : Nat
  column : Nat

structure Layout where
  cursor : Cursor
  tokens : List Token
  count : Nat
  /-- The indentation of the innermost block, -1 outside all blocks. -/
  indent : Int
  outerIndents : List Int
  allowsKey : Bool
  /-- One for each open bracket, innermost first, and one for the block around them. -/
  candidates : List (Option KeyCandidate)

abbrev Lexer := StateT Layout Option

namespace Layout

def start (text : List Char) : Layout where
  cursor := ⟨text, 0, 0, 0⟩
  tokens := []
  count := 0
  indent := -1
  outerIndents := []
  allowsKey := true
  candidates := [none]

def inFlow (layout : Layout) : Bool := layout.candidates.length > 1

def emit (layout : Layout) (token : Token) : Layout :=
  { layout with tokens := token :: layout.tokens, count := layout.count + 1 }

/-- Puts a token in front of those from `place` on. -/
def emitAt (layout : Layout) (place : Nat) (token : Token) : Layout :=
  let (after, before) := layout.tokens.splitAt (layout.count - place)
  { layout with tokens := after ++ token :: before, count := layout.count + 1 }

def closeBlocks (column : Int) : List Int → Layout → Layout
  | outer :: more, layout =>
      if layout.indent > column then
        closeBlocks column more { layout.emit .blockEnd with indent := outer, outerIndents := more }
      else layout
  | [], layout => layout

/-- Opens a block if the column is right of the block around it. -/
def openBlock (layout : Layout) (column place : Nat) (token : Token) : Layout :=
  if !layout.inFlow && layout.indent < column then
    { layout.emitAt place token with
      indent := column
      outerIndents := layout.indent :: layout.outerIndents }
  else layout

/-- Whether the colon of this key has to be behind the cursor by now. -/
def isStale (layout : Layout) (candidate : KeyCandidate) : Bool :=
  candidate.line < layout.cursor.line || candidate.index + 1024 < layout.cursor.index

end Layout

namespace Lexer

def read {α : Type} (reader : Reader α) : Lexer α := fun layout =>
  (reader layout.cursor).map fun (found, cursor) => (found, { layout with cursor })

def emit (token : Token) : Lexer Unit := modify (·.emit token)

def allowKey (allowsKey : Bool) : Lexer Unit := modify ({ · with allowsKey })

def closeBlocks (column : Int) : Lexer Unit :=
  modify fun layout =>
    if layout.inFlow then layout else layout.closeBlocks column layout.outerIndents

/-- Gives up a candidate; a required one must not be given up. -/
def dropped : Option KeyCandidate → Option (Option KeyCandidate)
  | some candidate => if candidate.isRequired then none else some none
  | none => some none

def setCandidates (candidates : List (Option KeyCandidate)) : Lexer Unit :=
  modify ({ · with candidates })

def dropCandidate : Lexer Unit := do
  match (← get).candidates with
  | innermost :: others =>
      match dropped innermost with
      | some dropped => setCandidates (dropped :: others)
      | none => failure
  | [] => return

/-- Gives up every candidate whose line has ended or that has grown too long. -/
def dropStale : Lexer Unit := do
  let layout ← get
  let kept := layout.candidates.mapM fun candidate =>
    if candidate.any layout.isStale then dropped candidate else some candidate
  match kept with
  | some candidates => setCandidates candidates
  | none => failure

/-- Makes the node at the cursor a candidate if a key may begin there. -/
def markCandidate : Lexer Unit := do
  let layout ← get
  if layout.allowsKey then
    dropCandidate
    let cursor := layout.cursor
    let isRequired := !layout.inFlow && layout.indent == cursor.column
    setCandidates <|
      some ⟨isRequired, layout.count, cursor.index, cursor.line, cursor.column⟩ ::
        layout.candidates.drop 1

def isGap (layout : Layout) (character : Char) : Bool :=
  character == ' ' || (layout.inFlow || !layout.allowsKey) && character == '\t'

def skipGap : Nat → Lexer Unit
  | 0 => failure
  | bound + 1 => do
      if (← get).cursor.column = 0 then discard <| read (Reader.accept byteOrderMark)
      let layout ← get
      discard <| read (Reader.many (isGap layout))
      read Reader.skipComment
      match ← read Reader.lineBreak? with
      | some _ =>
          if !layout.inFlow then allowKey true
          skipGap bound
      | none => return

/-- A directive or the edge of a document, which ends all blocks. -/
def atTopLevel (reader : Reader Token) : Lexer Unit := do
  closeBlocks (-1)
  dropCandidate
  allowKey false
  emit (← read reader)

def edge (token : Token) : Reader Token := do
  Reader.skip 3
  return token

def openFlow (token : Token) : Lexer Unit := do
  markCandidate
  setCandidates (none :: (← get).candidates)
  allowKey true
  read (Reader.skip 1)
  emit token

def closeFlow (token : Token) : Lexer Unit := do
  dropCandidate
  let layout ← get
  if layout.inFlow then setCandidates (layout.candidates.drop 1)
  allowKey false
  read (Reader.skip 1)
  emit token

def flowEntry : Lexer Unit := do
  dropCandidate
  allowKey true
  read (Reader.skip 1)
  emit .flowEntry

def openBlockHere (token : Token) : Lexer Unit := do
  let layout ← get
  if !layout.inFlow then
    if !layout.allowsKey then failure
    set (layout.openBlock layout.cursor.column layout.count token)

def blockEntry : Lexer Unit := do
  openBlockHere .blockSeq
  dropCandidate
  allowKey true
  read (Reader.skip 1)
  emit .blockEntry

def key : Lexer Unit := do
  openBlockHere .blockMap
  dropCandidate
  allowKey !(← get).inFlow
  read (Reader.skip 1)
  emit .key

def value : Lexer Unit := do
  let layout ← get
  match layout.candidates with
  | some candidate :: others =>
      let layout := layout.emitAt candidate.place .key
      set { layout.openBlock candidate.column candidate.place .blockMap with
        candidates := none :: others
        allowsKey := false }
  | _ =>
      openBlockHere .blockMap
      allowKey !(← get).inFlow
  read (Reader.skip 1)
  emit .value

def nodeStart (reader : Reader Token) : Lexer Unit := do
  markCandidate
  allowKey false
  emit (← read reader)

def quoted (mark : Char) (bound : Nat) : Reader Token := do
  Reader.skip 1
  return .scalar (String.ofList (← Reader.quotedFrom mark bound [])) false

def blockScalar (folds : Bool) (bound : Nat) : Lexer Unit := do
  dropCandidate
  allowKey true
  let text ← read (Reader.block folds (← get).indent bound)
  emit (.scalar (String.ofList text) false)

def plain (bound : Nat) : Lexer Unit := do
  markCandidate
  allowKey false
  let layout ← get
  let (text, isBroken) ←
    read (Reader.plainFrom layout.inFlow (layout.indent + 1).toNat bound .none [])
  if isBroken then allowKey true
  emit (.scalar (String.ofList text) true)

/-- The characters that a plain scalar may not begin with, whatever comes after them. -/
def indicators : List Char :=
  [',', '[', ']', '{', '\x7d', '#', '&', '*', '!', '|', '>', '\'', '"', '%', '@', '\x60']

/-- Whether a plain scalar may begin with `first` when `second` comes after it. -/
def startsPlain (inFlow : Bool) (first : Char) (second : Option Char) : Bool :=
  match first with
  | '-' => !second.any isBlank
  | '?' | ':' => !inFlow && !endsWord second
  | _ =>
      !endsWord (some first) &&
        !indicators.contains first

def step (bound : Nat) : Lexer Bool := do
  skipGap bound
  dropStale
  closeBlocks (← get).cursor.column
  let layout ← get
  let inFlow := layout.inFlow
  match layout.cursor.rest with
  | [] =>
      closeBlocks (-1)
      dropCandidate
      return false
  | first :: rest =>
      let second := rest.head?
      if layout.cursor.column = 0 && first == '%' then atTopLevel Reader.directive
      else if ← read (Reader.atMarker '-') then atTopLevel (edge .documentStart)
      else if ← read (Reader.atMarker '.') then atTopLevel (edge .documentEnd)
      else if first == '[' then openFlow .flowSeq
      else if first == '{' then openFlow .flowMap
      else if first == ']' then closeFlow .flowSeqEnd
      else if first == '\x7d' then closeFlow .flowMapEnd
      else if first == ',' then flowEntry
      else if first == '-' && endsWord second then blockEntry
      else if first == '?' && (inFlow || endsWord second) then key
      else if first == ':' && (inFlow || endsWord second) then value
      else if first == '*' then nodeStart do return .reference (← Reader.anchorName)
      else if first == '&' then nodeStart do return .anchor (← Reader.anchorName)
      else if first == '!' then nodeStart (Reader.tag inFlow)
      else if first == '|' && !inFlow then blockScalar false bound
      else if first == '>' && !inFlow then blockScalar true bound
      else if first == '\'' || first == '"' then nodeStart (quoted first bound)
      else if startsPlain inFlow first second then plain bound
      else failure
      return true

def steps : Nat → Lexer Unit
  | 0 => failure
  | bound + 1 => do
      if ← step (bound + 1) then steps bound

end Lexer

def Token.ofText? (text : List Char) : Option (List Token) :=
  if text.all isAllowed then
    ((Lexer.steps (text.length + 1)).run (.start text)).map fun result => result.2.tokens.reverse
  else none

end DocShape.Yaml
