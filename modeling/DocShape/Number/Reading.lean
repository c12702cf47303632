import DocShape.Number.Decimal

namespace DocShape.Binary64

/-! Reading floating-point numbers from text. -/

def digitsValue (digits : List Char) : Nat :=
  digits.foldl (fun value digit => value * 10 + (digit.toNat - '0'.toNat)) 0

def signed (text : List Char) : Bool × List Char :=
  match text with
  | '-' :: rest => (true, rest)
  | '+' :: rest => (false, rest)
  | other => (false, other)

/-- The power of ten after a number's digits; none if the text goes on otherwise. -/
def exponent? : List Char → Option Int
  | [] => some 0
  | mark :: rest =>
      let (negative, digits) := signed rest
      if (mark = 'e' ∨ mark = 'E') ∧ !digits.isEmpty ∧ digits.all Char.isDigit then
        let power : Int := digitsValue digits
        some (if negative then -power else power)
      else none

/-- Digits with at most one point among, before or after them, then an exponent. -/
def digits? (text : List Char) : Option Decimal :=
  let whole := text.takeWhile Char.isDigit
  let (fraction, rest) :=
    match text.dropWhile Char.isDigit with
    | '.' :: after => (after.takeWhile Char.isDigit, after.dropWhile Char.isDigit)
    | other => ([], other)
  if whole.isEmpty && fraction.isEmpty then none
  else
    (exponent? rest).map fun power =>
      ⟨digitsValue (whole ++ fraction), power - fraction.length⟩

/-- A decimal number, an infinity or `nan`, with a sign in front if need be. -/
def ofText? (text : String) : Option Binary64 :=
  let (negative, magnitude) := signed text.toList
  match digits? magnitude with
  | some decimal => some (decimal.toBinary negative)
  | none =>
      match String.ofList (magnitude.map Char.toLower) with
      | "inf" | "infinity" => some (.infinite negative)
      | "nan" => some .nan
      | _ => none

end DocShape.Binary64
