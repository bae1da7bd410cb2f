import DependencyAudit.Decimal.Double

namespace DependencyAudit.Decimal

/-- Digits times a power of ten. -/
structure Scientific where
  digits : Nat
  exponent : Int
deriving DecidableEq

namespace Shortest

/-- Whether digits times a power of ten are less than a quotient, equal to it, or more. -/
def compareTo (x : Scientific) (num den : Nat) : Ordering :=
  match x.exponent with
  | .ofNat e => compare (x.digits * Nat.pow 10 e * den) num
  | .negSucc e => compare (x.digits * den) (num * Nat.pow 10 (e + 1))

/-- Whether a decimal lies among the reals that round to a significand times a power of two. The ends do if the
significand is even. Below a power of two the next number is half as far. -/
def readsBack (significand : Nat) (exponent : Int) (x : Scientific) : Bool :=
  let narrow := significand = Nat.pow 2 (Double.bits - 1) ∧ Double.minExponent < exponent
  let (low, unit) := Double.scaled (4 * significand - if narrow then 1 else 2) 1 (2 - exponent)
  let (high, _) := Double.scaled (4 * significand + 2) 1 (2 - exponent)
  let even := significand % 2 = 0
  match compareTo x low unit, compareTo x high unit with
  | .gt, .lt => true
  | .eq, _ => even
  | _, .eq => even
  | _, _ => false

/-- How many digits a positive quotient has before its point; for each zero after the point, one less than none. -/
def magnitude (num den : Nat) : Int :=
  if den ≤ num then (Text.decimal (num / den)).length
  else
    let zeros : Nat := (Text.decimal (den / num)).length - 1
    if compareTo ⟨1, -zeros⟩ num den = .gt then -zeros else 1 - zeros

/-- Digits for a quotient up to a power of ten: of its two neighbours that pass, the nearer, of equally near ones the
even one. -/
def candidate? (passes : Scientific → Bool) (num den : Nat) (exponent : Int) : Option Scientific :=
  let (n, d) := match exponent with
    | .ofNat e => (num, den * Nat.pow 10 e)
    | .negSucc e => (num * Nat.pow 10 (e + 1), den)
  let below : Scientific := ⟨n / d, exponent⟩
  let above : Scientific := ⟨n / d + 1, exponent⟩
  match passes below, passes above with
  | true, true => some ⟨roundDiv n d, exponent⟩
  | true, false => some below
  | false, true => some above
  | false, false => none

/-- Moves zeros at the end of the digits into the power of ten. -/
def strip : Nat → Scientific → Scientific
  | 0, x => x
  | fuel + 1, x => if x.digits % 10 = 0 then strip fuel ⟨x.digits / 10, x.exponent + 1⟩ else x

/-- So many digits always suffice. -/
def maxDigits : Nat := 17

/-- The fewest digits that read back to a positive number, and of those the nearest. -/
def ofPositive (significand : Nat) (exponent : Int) : Scientific :=
  let (num, den) := Double.scaled significand 1 (-exponent)
  let size := magnitude num den
  let found := (List.range maxDigits).findSome? fun n =>
    candidate? (readsBack significand exponent) num den (size - (n + 1 : Nat))
  strip maxDigits (found.getD ⟨roundDiv num den, 0⟩)

end Shortest

end DependencyAudit.Decimal
