import DocShape.Pattern.PropertyName
import DocShape.Pattern.Tree

namespace DocShape.Pattern

/-! Patterns with their flags applied: what has to be matched, and nothing about how it was
written. -/

/-- A condition on the characters on both sides of a position. -/
inductive Assertion where
  | textStart
  | textEnd
  | lineStart
  | lineEnd
  /-- Lines that end in a carriage return, a line feed or both. -/
  | crlfLineStart
  | crlfLineEnd
  | wordBoundary (word : CharSet)
  | notWordBoundary (word : CharSet)
  | wordStart (word : CharSet)
  | wordEnd (word : CharSet)
  | wordStartHalf (word : CharSet)
  | wordEndHalf (word : CharSet)
deriving Repr

namespace Assertion

def inWord (word : CharSet) (character : Option Char) : Bool :=
  character.any fun found => word.contains found.toNat

def holds (before after : Option Char) : Assertion → Bool
  | .textStart => before.isNone
  | .textEnd => after.isNone
  | .lineStart => before.isNone || before == some '\n'
  | .lineEnd => after.isNone || after == some '\n'
  | .crlfLineStart =>
      before.isNone || before == some '\n' || before == some '\r' && after != some '\n'
  | .crlfLineEnd =>
      after.isNone || after == some '\r' || after == some '\n' && before != some '\r'
  | .wordBoundary word => inWord word before != inWord word after
  | .notWordBoundary word => inWord word before == inWord word after
  | .wordStart word => !inWord word before && inWord word after
  | .wordEnd word => inWord word before && !inWord word after
  | .wordStartHalf word => !inWord word before
  | .wordEndHalf word => !inWord word after

end Assertion

inductive Expression where
  | empty
  | one (set : CharSet)
  | assertion (assertion : Assertion)
  | sequence (first second : Expression)
  | choice (left right : Expression)
  | repeated (inner : Expression) (least : Nat) (most : Option Nat)
deriving Repr

structure Flags where
  ignoreCase : Bool
  multiLine : Bool
  dotMatchesNewline : Bool
  unicode : Bool
  crlf : Bool
deriving Repr, DecidableEq

namespace Flags

def initial : Flags := ⟨false, false, false, true, false⟩

def put (value : Bool) (flags : Flags) : Flag → Flags
  | .ignoreCase => { flags with ignoreCase := value }
  | .multiLine => { flags with multiLine := value }
  | .dotMatchesNewline => { flags with dotMatchesNewline := value }
  | .unicode => { flags with unicode := value }
  | .crlf => { flags with crlf := value }
  | .swapGreed | .ignoreBlanks => flags

def apply (flags : Flags) (change : FlagChange) : Flags :=
  change.cleared.foldl (put false) (change.set.foldl (put true) flags)

/-- A set that may stand in a pattern: without Unicode it must be one of ASCII characters. -/
def admitted? (flags : Flags) (set : CharSet) : Option CharSet :=
  if flags.unicode || set.isAscii then some set else none

def completed? (flags : Flags) (negated : Bool) (set : CharSet) : Option CharSet :=
  flags.admitted? ((set.folded flags.ignoreCase flags.unicode).negatedIf negated)

def perlSet (flags : Flags) : PerlKind → CharSet
  | .digit => if flags.unicode then .digit else .asciiDigit
  | .blank => if flags.unicode then .blank else .asciiBlank
  | .word => if flags.unicode then .word else .asciiWord

def escapeSet? (flags : Flags) : ClassEscape → Option CharSet
  | .perl kind negated => flags.admitted? ((flags.perlSet kind).negatedIf negated)
  | .property query negated =>
      if flags.unicode then
        let found :=
          match query with
          | .name text => PropertyName.ofName? text
          | .value property text => PropertyName.ofValue? property text
        found.bind (flags.completed? negated)
      else none

/-- Without Unicode, two hexadecimal digits above ASCII would stand for a lone byte. -/
def literalCode? (flags : Flags) (literal : Literal) : Option Nat :=
  let code := literal.character.toNat
  if !flags.unicode && literal.twoDigits && 0x7f < code then none else some code

/-- Without Unicode a class holds ASCII characters only. -/
def classCode? (flags : Flags) (literal : Literal) : Option Nat :=
  let code := literal.character.toNat
  if !flags.unicode && 0x7f < code then none else some code

mutual

def classSet? (flags : Flags) : ClassSet → Option CharSet
  | .literal literal => (flags.classCode? literal).map .single
  | .range low high => do
      return .ranges [(← flags.classCode? low, ← flags.classCode? high)]
  | .ascii members negated => flags.completed? negated (.ranges members)
  | .escape escape => flags.escapeSet? escape
  | .bracketed negated inner => do flags.completed? negated (← flags.classSet? inner)
  | .union items => flags.classSets? items
  | .operation operation left right => do
      let left := (← flags.classSet? left).folded flags.ignoreCase flags.unicode
      let right := (← flags.classSet? right).folded flags.ignoreCase flags.unicode
      match operation with
      | .intersection => return .intersection left right
      | .difference => return .difference left right
      | .symmetricDifference => return .symmetricDifference left right

def classSets? (flags : Flags) : List ClassSet → Option CharSet
  | [] => some .empty
  | item :: rest => do return .union (← flags.classSet? item) (← flags.classSets? rest)

end

def newline : CharSet := .single '\n'.toNat

def crlfNewline : CharSet := .ranges [(0x0a, 0x0a), (0x0d, 0x0d)]

def dotSet? (flags : Flags) : Option CharSet :=
  if !flags.unicode then none
  else if flags.dotMatchesNewline then some .anything
  else some (.complement (if flags.crlf then crlfNewline else newline))

def assertion (flags : Flags) (kind : AnchorKind) : Assertion :=
  let word := flags.perlSet .word
  match kind with
  | .lineStart =>
      if !flags.multiLine then .textStart else if flags.crlf then .crlfLineStart else .lineStart
  | .lineEnd =>
      if !flags.multiLine then .textEnd else if flags.crlf then .crlfLineEnd else .lineEnd
  | .textStart => .textStart
  | .textEnd => .textEnd
  | .wordBoundary => .wordBoundary word
  | .notWordBoundary => .notWordBoundary word
  | .wordStart => .wordStart word
  | .wordEnd => .wordEnd word
  | .wordStartHalf => .wordStartHalf word
  | .wordEndHalf => .wordEndHalf word

end Flags

namespace Expression

mutual

/-- The meaning of a tree under the flags in force before it, and the flags after it.  A
change of flags lasts to the end of its group. -/
def ofTree? (flags : Flags) : Tree → Option (Expression × Flags)
  | .empty => some (.empty, flags)
  | .flags change => some (.empty, flags.apply change)
  | .literal literal => do
      let set := CharSet.single (← flags.literalCode? literal)
      return (.one (set.folded flags.ignoreCase flags.unicode), flags)
  | .dot => do return (.one (← flags.dotSet?), flags)
  | .anchor kind => some (.assertion (flags.assertion kind), flags)
  | .escape escape => do return (.one (← flags.escapeSet? escape), flags)
  | .bracketed negated inner => do
      return (.one (← flags.completed? negated (← flags.classSet? inner)), flags)
  | .repetition inner least most => do
      let (inner, flags) ← ofTree? flags inner
      return (.repeated inner least most, flags)
  | .group change inner => do
      let (inner, _) ← ofTree? (flags.apply change) inner
      return (inner, flags)
  | .alternation branches => ofBranches? flags branches
  | .concat parts => ofParts? flags parts

def ofParts? (flags : Flags) : List Tree → Option (Expression × Flags)
  | [] => some (.empty, flags)
  | part :: rest => do
      let (first, flags) ← ofTree? flags part
      let (second, flags) ← ofParts? flags rest
      return (.sequence first second, flags)

def ofBranches? (flags : Flags) : List Tree → Option (Expression × Flags)
  | [] => some (.one .empty, flags)
  | branch :: rest => do
      let (left, flags) ← ofTree? flags branch
      let (right, flags) ← ofBranches? flags rest
      return (.choice left right, flags)

end

end Expression
end DocShape.Pattern
