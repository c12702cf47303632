import DocShape.Number.Binary64

namespace DocShape

/-! Decimal numbers: reading one written in digits, and choosing the shortest one that
stands for a binary number.

`Decimal.shortest` tries one digit, then two, and so on.  On the grid of decimals with
that many digits only the two neighbours of the number can lie among the reals that round
to it, so testing both decides whether a decimal of that length reads back.
-/

/-- The number `digits * 10 ^ exponent`. -/
structure Decimal where
  digits : Nat
  exponent : Int
deriving Repr, DecidableEq

namespace Decimal

def digitCount (digits : Nat) : Nat := (Nat.toDigits 10 digits).length

/-- The binary number nearest to a decimal.  Magnitudes beyond `10 ^ 309` are infinite and
those below `10 ^ -324` are zero, so no larger power of ten is ever formed. -/
def toBinary (negative : Bool) (decimal : Decimal) : Binary64 :=
  if decimal.digits = 0 then
    .finite negative 0
  else
    let magnitude := decimal.exponent + digitCount decimal.digits
    if magnitude > 309 then .infinite negative
    else if magnitude < -323 then .finite negative 0
    else
      .nearest negative (decimal.digits * Nat.pow 10 decimal.exponent.toNat)
        (Nat.pow 10 (-decimal.exponent).toNat)

/-- Comparison with a multiple of a quarter unit, by cross multiplication. -/
def compareQuarters (decimal : Decimal) (quarters : Nat) : Ordering :=
  compare (decimal.digits * Nat.pow 10 decimal.exponent.toNat * (4 * Binary64.one))
    (quarters * Nat.pow 10 (-decimal.exponent).toNat)

/-- The decimal lies among the reals that round to the positive number of so many units.
The interval reaches halfway to either neighbour and holds its ends if the significand is
even. -/
def readsBack (units : Nat) (decimal : Decimal) : Bool :=
  let gap := Nat.pow 2 (Binary64.spacing units)
  let gapBelow := if gap > 1 && units == Nat.pow 2 units.log2 then gap / 2 else gap
  let closed := units / gap % 2 == 0
  let lower := decimal.compareQuarters (4 * units - 2 * gapBelow)
  let upper := decimal.compareQuarters (4 * units + 2 * gap)
  (lower == .gt || closed && lower == .eq) && (upper == .lt || closed && upper == .eq)

/-- Where an exact tie between two candidates goes. -/
inductive Tie where
  | toEven
  | up
deriving Repr, DecidableEq

/-- The least `scale` with the number below `10 ^ scale`; the binary logarithm tells it up
to one. -/
def scale (units : Nat) : Int :=
  let estimate := ((units.log2 : Int) - 1074) * 30103 / 100000 + 1
  if (Decimal.mk 1 estimate).compareQuarters (4 * units) == .gt then estimate else estimate + 1

/-- The greatest multiple of `10 ^ exponent` that is at most the number. -/
def floorAt (units : Nat) (exponent : Int) : Nat :=
  units * Nat.pow 10 (-exponent).toNat / (Binary64.one * Nat.pow 10 exponent.toNat)

/-- The candidate with so many digits that reads back, the nearer one if both do. -/
def candidate? (tie : Tie) (units count : Nat) : Option Decimal :=
  let exponent := scale units - count
  let floor := floorAt units exponent
  let below := Decimal.mk floor exponent
  let above := Decimal.mk (floor + 1) exponent
  match readsBack units below, readsBack units above with
  | false, false => none
  | true, false => some below
  | false, true => some above
  | true, true =>
      match (Decimal.mk (2 * floor + 1) exponent).compareQuarters (8 * units) with
      | .gt => some below
      | .lt => some above
      | .eq =>
          match tie with
          | .up => some above
          | .toEven => some (if floor % 2 = 0 then below else above)

def strip : Nat → Decimal → Decimal
  | 0, decimal => decimal
  | fuel + 1, decimal =>
      if decimal.digits ≠ 0 ∧ decimal.digits % 10 = 0 then
        strip fuel ⟨decimal.digits / 10, decimal.exponent + 1⟩
      else decimal

/-- The shortest decimal that reads back as the positive number of so many units.
Seventeen digits always suffice. -/
def shortest (tie : Tie) (units : Nat) : Decimal :=
  match (List.range 17).findSome? fun shorter => candidate? tie units (shorter + 1) with
  | some found => strip 17 found
  | none => ⟨units * Nat.pow 5 1074, -1074⟩

end Decimal
end DocShape
