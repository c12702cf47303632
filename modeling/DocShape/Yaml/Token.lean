import DocShape.Yaml.Scalar

namespace DocShape.Yaml

/-! Tokens, and reading those that do not depend on the layout. -/

inductive Token where
  | version (major minor : Nat)
  /-- A directive that gives a tag handle its meaning. -/
  | handle (name meaning : String)
  | documentStart
  | documentEnd
  | blockSeq
  | blockMap
  | blockEnd
  | flowSeq
  | flowSeqEnd
  | flowMap
  | flowMapEnd
  | flowEntry
  | blockEntry
  | key
  | value
  | reference (name : String)
  | anchor (name : String)
  /-- A tag's handle, empty if it has none, and the text after it. -/
  | tag (handle suffix : String)
  | scalar (text : String) (isPlain : Bool)
deriving Repr, DecidableEq

namespace Reader

def anchorName : Reader String := do
  skip 1
  let name ← many isNameCharacter
  let next ← peek?
  let isEnded := endsWord next ||
    next.any fun character => ['?', ':', ',', ']', '\x7d', '%', '@', '\x60'].contains character
  if name.isEmpty || !isEnded then failure
  return String.ofList name

/-- The characters of a tag; those after the first line only between angle brackets and in
directives. -/
def isTagCharacter (isVerbatim : Bool) (character : Char) : Bool :=
  isNameCharacter character ||
    [';', '/', '?', ':', '@', '&', '=', '+', '$', '.', '%', '!', '~', '*', '\'', '(', ')'].contains
      character ||
    isVerbatim && [',', '[', ']'].contains character

/-- How many bytes the character that starts with this byte has. -/
def encodedLength? (first : Nat) : Option Nat :=
  if first < 0x80 then some 1
  else if 0xc0 ≤ first ∧ first < 0xe0 then some 2
  else if 0xe0 ≤ first ∧ first < 0xf0 then some 3
  else if 0xf0 ≤ first ∧ first < 0xf8 then some 4
  else none

/-- Bytes written with a percent sign and two digits each, up to the end of a character. -/
def encodedBytes? : Nat → List Char → Option (List UInt8 × List Char)
  | 0, rest => some ([], rest)
  | count + 1, '%' :: high :: low :: rest =>
      if isHexDigit high && isHexDigit low then
        (encodedBytes? count rest).map fun (bytes, rest) =>
          (UInt8.ofNat (hexNumber [high, low]) :: bytes, rest)
      else none
  | _, _ => none

def decoded? : Nat → List Char → Option (List Char)
  | _, [] => some []
  | 0, _ => none
  | bound + 1, '%' :: rest => do
      let (first, _) ← encodedBytes? 1 ('%' :: rest)
      let count ← first.head?.bind fun byte => encodedLength? byte.toNat
      let (bytes, rest) ← encodedBytes? count ('%' :: rest)
      let text ← String.fromUTF8? ⟨bytes.toArray⟩
      return text.toList ++ (← decoded? bound rest)
  | bound + 1, character :: rest => do return character :: (← decoded? bound rest)

def tagText (isVerbatim : Bool) : Reader (List Char) := do
  let written ← many (isTagCharacter isVerbatim)
  match decoded? written.length written with
  | some text => return text
  | none => failure

/-- A mark, name characters and perhaps a second mark. -/
def tagHandle : Reader (List Char) := do
  expect '!'
  let name ← many isNameCharacter
  if ← accept '!' then return '!' :: name ++ ['!'] else return '!' :: name

def isClosedHandle (handle : List Char) : Bool :=
  handle.length > 1 && handle.getLast? == some '!'

def tag (inFlow : Bool) : Reader Token := do
  let found ←
    if (← second?) == some '<' then do
      skip 2
      let text ← tagText true
      expect '>'
      if text.isEmpty then failure
      pure (Token.tag "" (String.ofList text))
    else do
      let handle ← tagHandle
      let text ← tagText false
      if isClosedHandle handle then
        if text.isEmpty then failure
        pure (Token.tag (String.ofList handle) (String.ofList text))
      else
        let suffix := handle.drop 1 ++ text
        pure (if suffix.isEmpty then Token.tag "" "!" else Token.tag "!" (String.ofList suffix))
  if endsWord (← peek?) || inFlow && (← nextIs ',') then return found else failure

def versionNumber : Reader Nat := do
  let digits ← many Char.isDigit
  if digits.isEmpty || digits.length > 9 then failure
  return digits.foldl (fun value digit => value * 10 + (digit.toNat - '0'.toNat)) 0

def directive : Reader Token := do
  skip 1
  let name ← many isNameCharacter
  if !endsWord (← peek?) then failure
  discard <| many isBlank
  let found ←
    match String.ofList name with
    | "YAML" => do
        let major ← versionNumber
        expect '.'
        pure (Token.version major (← versionNumber))
    | "TAG" => do
        let handle ← tagHandle
        if handle.length > 1 && !isClosedHandle handle then failure
        if (← many isBlank).isEmpty then failure
        let meaning ← tagText true
        if meaning.isEmpty || !endsWord (← peek?) then failure
        pure (Token.handle (String.ofList handle) (String.ofList meaning))
    | _ => failure
  finishLine
  return found

end Reader
end DocShape.Yaml
