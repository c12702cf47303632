import DocShape.Number.Decimal

namespace DocShape

/-! Layout of floating-point numbers as text. -/

/-- What a format decides about the text of a number. -/
structure NumberStyle where
  /-- Whether a number whose leading digit stands at this power of ten is written with an
  exponent. -/
  exponential : Int → Bool
  /-- What follows a whole number written without an exponent. -/
  wholeEnd : String
  tie : Decimal.Tie
  nan : String
  infinity : String

namespace NumberStyle

def zeros (count : Nat) : String := String.ofList (List.replicate count '0')

/-- Digits with the point so many places from their right end. -/
def positional (style : NumberStyle) (decimal : Decimal) : String :=
  let digits := Nat.toDigits 10 decimal.digits
  if 0 ≤ decimal.exponent then
    String.ofList digits ++ zeros decimal.exponent.toNat ++ style.wholeEnd
  else
    let places := (-decimal.exponent).toNat
    if places < digits.length then
      String.ofList (digits.take (digits.length - places)) ++ "." ++
        String.ofList (digits.drop (digits.length - places))
    else
      "0." ++ zeros (places - digits.length) ++ String.ofList digits

/-- One digit, the other digits after a point, and the power of ten. -/
def withExponent (leading : Int) (decimal : Decimal) : String :=
  let digits := Nat.toDigits 10 decimal.digits
  let rest := digits.drop 1
  String.ofList (digits.take 1) ++
    (if rest.isEmpty then "" else "." ++ String.ofList rest) ++ "e" ++ toString leading

def magnitude (style : NumberStyle) (units : Nat) : String :=
  if units = 0 then
    "0" ++ style.wholeEnd
  else
    let decimal := Decimal.shortest style.tie units
    let leading := decimal.exponent + Decimal.digitCount decimal.digits - 1
    if style.exponential leading then withExponent leading decimal
    else style.positional decimal

def text (style : NumberStyle) : Binary64 → String
  | .nan => style.nan
  | .infinite negative => (if negative then "-" else "") ++ style.infinity
  | .finite negative units => (if negative then "-" else "") ++ style.magnitude units

end NumberStyle
end DocShape
