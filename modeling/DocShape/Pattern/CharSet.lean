import DocShape.Unicode.CaseFold
import DocShape.Unicode.Category
import DocShape.Unicode.Property

namespace DocShape.Pattern

/-! Sets of characters, kept as the expression that describes them.

Membership follows the expression, so a set operation needs no arithmetic on ranges.
-/

open DocShape.Unicode

inductive CharSet where
  | ranges (members : Ranges)
  | union (left right : CharSet)
  | intersection (left right : CharSet)
  | difference (left right : CharSet)
  | symmetricDifference (left right : CharSet)
  | complement (inner : CharSet)
  /-- With every character that equals a member but for its case. -/
  | anyCase (inner : CharSet)
  | anyAsciiCase (inner : CharSet)
deriving Repr

namespace CharSet

def otherAsciiCase? (code : Nat) : Option Nat :=
  if 0x41 ≤ code ∧ code ≤ 0x5a then some (code + 0x20)
  else if 0x61 ≤ code ∧ code ≤ 0x7a then some (code - 0x20)
  else none

def contains : CharSet → Nat → Bool
  | .ranges members, code => members.contains code
  | .union left right, code => left.contains code || right.contains code
  | .intersection left right, code => left.contains code && right.contains code
  | .difference left right, code => left.contains code && !right.contains code
  | .symmetricDifference left right, code => left.contains code != right.contains code
  | .complement inner, code => !inner.contains code
  | .anyCase inner, code => inner.contains code || (CaseFold.variants code).any inner.contains
  | .anyAsciiCase inner, code =>
      inner.contains code || (otherAsciiCase? code).any inner.contains

def empty : CharSet := .ranges []

def single (code : Nat) : CharSet := .ranges [(code, code)]

def anything : CharSet := .complement empty

def unions (sets : List CharSet) : CharSet := sets.foldr .union empty

def categories (members : List Category) : CharSet :=
  unions (members.map fun category => .ranges category.ranges)

def digit : CharSet := .ranges Category.decimalNumberRanges

def blank : CharSet := .ranges Property.whiteSpace

/-- Letters, marks, decimal digits, connecting punctuation and joiners. -/
def word : CharSet :=
  unions [.ranges [(0x30, 0x39), (0x41, 0x5a), (0x5f, 0x5f), (0x61, 0x7a)],
    .ranges Property.alphabetic, categories Category.marks, digit,
    .ranges Category.connectorPunctuationRanges, .ranges Property.joinControl]

def asciiDigit : CharSet := .ranges [(0x30, 0x39)]

def asciiBlank : CharSet := .ranges [(0x09, 0x0d), (0x20, 0x20)]

def asciiWord : CharSet := .ranges [(0x30, 0x39), (0x41, 0x5a), (0x5f, 0x5f), (0x61, 0x7a)]

/-- No code from 128 to 255 is a member. -/
def isAscii (set : CharSet) : Bool :=
  (List.range 128).all fun offset => !set.contains (128 + offset)

def folded (set : CharSet) (ignoreCase unicode : Bool) : CharSet :=
  if ignoreCase then (if unicode then .anyCase set else .anyAsciiCase set) else set

def negatedIf (negated : Bool) (set : CharSet) : CharSet :=
  if negated then .complement set else set

end CharSet
end DocShape.Pattern
