namespace DocShape

/-! Binary floating-point numbers of 64 bits.

A finite number is kept as an exact multiple of the least positive one, `2^-1074`.
Order is then the order of integers, and every rounding is a division of naturals to
the nearest multiple of a power of two.
-/

inductive Binary64 where
  | nan
  | infinite (negative : Bool)
  | finite (negative : Bool) (units : Nat)
deriving Repr, DecidableEq, Inhabited

namespace Binary64

def one : Nat := Nat.pow 2 1074

/-- The first magnitude past the finite numbers, in units. -/
def limit : Nat := Nat.pow 2 2098

/-- Neighbours at this magnitude are `2 ^ spacing` units apart: a number has 53 bits. -/
def spacing (units : Nat) : Nat := units.log2 - 52

/-- The natural nearest to a quotient; a tie goes to the even neighbour. -/
def roundQuotient (numerator denominator : Nat) : Nat :=
  let whole := numerator / denominator
  match compare (2 * (numerator % denominator)) denominator with
  | .lt => whole
  | .gt => whole + 1
  | .eq => if whole % 2 = 0 then whole else whole + 1

/-- The number nearest to `numerator / denominator`; past the largest it is infinite. -/
def nearest (negative : Bool) (numerator denominator : Nat) : Binary64 :=
  let scaled := numerator * one
  let gap := Nat.pow 2 (spacing (scaled / denominator))
  let units := roundQuotient scaled (denominator * gap) * gap
  if units < limit then .finite negative units else .infinite negative

def ofInt (value : Int) : Binary64 :=
  nearest (decide (value < 0)) value.natAbs 1

def ofNat (value : Nat) : Binary64 :=
  nearest false value 1

def isFinite : Binary64 → Bool
  | .finite .. => true
  | _ => false

/-- Position on the number line, with infinities just past the finite numbers.
Both zeros stand at the same place and `nan` at none. -/
def position? : Binary64 → Option Int
  | .nan => none
  | .infinite negative => some (if negative then -(limit : Int) else limit)
  | .finite negative units => some (if negative then -(units : Int) else units)

def lt (left right : Binary64) : Bool :=
  match left.position?, right.position? with
  | some below, some above => decide (below < above)
  | _, _ => false

def le (left right : Binary64) : Bool :=
  match left.position?, right.position? with
  | some below, some above => decide (below ≤ above)
  | _, _ => false

/-- The same place on the number line. -/
def same (left right : Binary64) : Bool :=
  match left.position?, right.position? with
  | some here, some there => here == there
  | _, _ => false

theorem le_iff_lt_or_same (left right : Binary64) :
    left.le right = (left.lt right || left.same right) := by
  unfold le lt same
  cases left.position? <;> cases right.position? <;> try rfl
  rename_i below above
  apply Bool.eq_iff_iff.mpr
  simp only [Bool.or_eq_true, decide_eq_true_eq, beq_iff_eq]
  omega

end Binary64
end DocShape
