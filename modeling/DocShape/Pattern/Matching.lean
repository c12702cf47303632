import DocShape.Pattern.Expression

namespace DocShape.Pattern

/-! Matching by sets of positions.

A set of positions in a text is a natural number whose binary digit at a position tells
whether it belongs to the set.  An expression carries such a set to the positions where a
match that began in it can end, so a text is read once for all ways to match it, whichever
of them would be preferred.
-/

/-- The positions before the characters for which `belongs` holds. -/
def charPositions (belongs : Char → Bool) : List Char → Nat
  | [] => 0
  | character :: rest => (belongs character).toNat + 2 * charPositions belongs rest

/-- The positions at which an assertion holds, given the character before the text. -/
def assertionPositions (assertion : Assertion) : Option Char → List Char → Nat
  | before, [] => (assertion.holds before none).toNat
  | before, character :: rest =>
      (assertion.holds before (some character)).toNat +
        2 * assertionPositions assertion (some character) rest

/-- Takes a step so many times; from a fixed point on nothing changes. -/
def iterate (step : Nat → Nat) : Nat → Nat → Nat
  | 0, positions => positions
  | count + 1, positions =>
      let next := step positions
      if next = positions then positions else iterate step count next

/-- All positions reached in at most so many steps. -/
def within (step : Nat → Nat) : Nat → Nat → Nat
  | 0, positions => positions
  | count + 1, positions =>
      let next := positions ||| step positions
      if next = positions then positions else within step count next

namespace Expression

/-- The positions where a match can end that began at one of `positions`.  Unbounded
repetition needs no more rounds than the text has positions. -/
def ends (text : List Char) : Expression → Nat → Nat
  | .empty, positions => positions
  | .one set, positions =>
      if positions = 0 then 0
      else (positions &&& charPositions (fun found => set.contains found.toNat) text) <<< 1
  | .assertion condition, positions => positions &&& assertionPositions condition none text
  | .sequence first second, positions => second.ends text (first.ends text positions)
  | .choice left right, positions => left.ends text positions ||| right.ends text positions
  | .repeated inner least most, positions =>
      let started := iterate (inner.ends text) least positions
      within (inner.ends text)
        (match most with
          | some most => most - least
          | none => text.length + 1)
        started

def isFoundIn (expression : Expression) (text : List Char) : Bool :=
  expression.ends text (Nat.pow 2 (text.length + 1) - 1) != 0

end Expression
end DocShape.Pattern
