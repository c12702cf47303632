namespace DocShape.Unicode

/-! Sets of characters as ascending lists of closed code point ranges. -/

/-- Closed ranges of code points, in ascending order. -/
abbrev Ranges := List (Nat × Nat)

namespace Ranges

/-- Looks a code point up; ranges past it are not visited. -/
def contains (code : Nat) : Ranges → Bool
  | [] => false
  | (low, high) :: rest => if code < low then false else decide (code ≤ high) || contains code rest

def hexDigit (digit : Char) : Nat :=
  if digit.isDigit then digit.toNat - '0'.toNat else digit.toNat - 'A'.toNat + 10

def hexNumber (digits : String) : Nat :=
  digits.foldl (fun value digit => value * 16 + hexDigit digit) 0

/-- Reads a range such as `41-5A`, or a single code point, in upper case digits. -/
def readRange (text : String) : Option (Nat × Nat) :=
  match text.splitOn "-" with
  | [single] => some (hexNumber single, hexNumber single)
  | [low, high] => some (hexNumber low, hexNumber high)
  | _ => none

/-- Reads lines of ranges set off by blanks. -/
def ofHex (lines : List String) : Ranges :=
  lines.flatMap fun line => (line.splitOn " ").filterMap readRange

theorem contains_nil (code : Nat) : contains code [] = false := rfl

end Ranges
end DocShape.Unicode
