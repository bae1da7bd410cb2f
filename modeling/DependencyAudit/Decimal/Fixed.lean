import DependencyAudit.Decimal.Double

namespace DependencyAudit.Decimal

/-- A magnitude in units of the last of so many decimal places. -/
def unitsOf (places significand : Nat) (exponent : Int) : Nat :=
  let (n, d) := Double.scaled (significand * Nat.pow 10 places) 1 (-exponent)
  roundDiv n d

/-- Decimal text with a fixed number of places; the sign stays when the digits round to zero. -/
def fixed (places : Nat) : Double → Text
  | .finite negative s e =>
    let units := unitsOf places s e
    let one := Nat.pow 10 places
    let digits := Text.decimal (units / one) ++ '.' :: Text.zeroPadded places (units % one)
    if negative then '-' :: digits else digits
  | .infinite false => "inf".toList
  | .infinite true => "-inf".toList
  | .undefined => "nan".toList

end DependencyAudit.Decimal
