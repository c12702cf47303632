import DocShape.Unicode.Ranges

namespace DocShape.Pattern

/-! Patterns as they are written: a tree of groups, alternatives, repetitions and
character classes, before flags are applied to it. -/

inductive Flag where
  | ignoreCase
  | multiLine
  | dotMatchesNewline
  | swapGreed
  | unicode
  | crlf
  | ignoreBlanks
deriving Repr, DecidableEq

structure FlagChange where
  set : List Flag
  cleared : List Flag
deriving Repr

/-- A character that the pattern asks for.  One written with two hexadecimal digits may
stand for a byte. -/
structure Literal where
  character : Char
  twoDigits : Bool
deriving Repr

inductive PerlKind where
  | digit
  | blank
  | word
deriving Repr, DecidableEq

inductive PropertyQuery where
  | name (text : String)
  | value (property text : String)
deriving Repr

inductive ClassEscape where
  | perl (kind : PerlKind) (negated : Bool)
  | property (query : PropertyQuery) (negated : Bool)
deriving Repr

inductive SetOperation where
  | intersection
  | difference
  | symmetricDifference
deriving Repr, DecidableEq

inductive ClassSet where
  | literal (literal : Literal)
  | range (low high : Literal)
  | ascii (members : Unicode.Ranges) (negated : Bool)
  | escape (escape : ClassEscape)
  | bracketed (negated : Bool) (inner : ClassSet)
  | union (items : List ClassSet)
  | operation (operation : SetOperation) (left right : ClassSet)
deriving Repr

inductive AnchorKind where
  | lineStart
  | lineEnd
  | textStart
  | textEnd
  | wordBoundary
  | notWordBoundary
  | wordStart
  | wordEnd
  | wordStartHalf
  | wordEndHalf
deriving Repr, DecidableEq

inductive Tree where
  | empty
  | flags (change : FlagChange)
  | literal (literal : Literal)
  | dot
  | anchor (kind : AnchorKind)
  | escape (escape : ClassEscape)
  | bracketed (negated : Bool) (inner : ClassSet)
  | repetition (inner : Tree) (least : Nat) (most : Option Nat)
  | group (change : FlagChange) (inner : Tree)
  | alternation (branches : List Tree)
  | concat (parts : List Tree)
deriving Repr

namespace ClassSet

mutual

def depth : ClassSet → Nat
  | .bracketed _ inner => inner.depth + 1
  | .union items => depths items + 1
  | .operation _ left right => max left.depth right.depth + 1
  | _ => 0

def depths : List ClassSet → Nat
  | [] => 0
  | item :: rest => max item.depth (depths rest)

end

/-- Items side by side; a single one needs no union. -/
def ofItems : List ClassSet → ClassSet
  | [single] => single
  | items => .union items

end ClassSet

namespace Tree

mutual

/-- How deep groups, repetitions, classes, alternatives and sequences are nested. -/
def depth : Tree → Nat
  | .bracketed _ inner => inner.depth + 1
  | .repetition inner _ _ => inner.depth + 1
  | .group _ inner => inner.depth + 1
  | .alternation branches => depths branches + 1
  | .concat parts => depths parts + 1
  | _ => 0

def depths : List Tree → Nat
  | [] => 0
  | part :: rest => max part.depth (depths rest)

end

/-- Parts in sequence; a single one needs no sequence. -/
def ofParts : List Tree → Tree
  | [] => .empty
  | [single] => single
  | parts => .concat parts

def ofBranches : List Tree → Tree
  | [] => .empty
  | [single] => single
  | branches => .alternation branches

def isRepeatable : Tree → Bool
  | .empty | .flags _ => false
  | _ => true

end Tree
end DocShape.Pattern
