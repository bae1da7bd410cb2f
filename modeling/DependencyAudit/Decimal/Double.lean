import DependencyAudit.Text.Basic

namespace DependencyAudit.Decimal

/-- The whole number nearest to a quotient; of two equally near ones the even one. -/
def roundDiv (num den : Nat) : Nat :=
  let quotient := num / den
  let twice := 2 * (num % den)
  if twice < den ∨ (twice = den ∧ quotient % 2 = 0) then quotient else quotient + 1

/-- A number of double precision. A finite one is a signed significand times a power of two. -/
inductive Double where
  | finite (negative : Bool) (significand : Nat) (exponent : Int)
  | infinite (negative : Bool)
  | undefined
deriving DecidableEq

namespace Double

/-- The bits of a significand. -/
def bits : Nat := 53

/-- The exponents of the smallest and of the largest numbers. -/
def minExponent : Int := -1074

def maxExponent : Int := 971

def zero (negative : Bool) : Double := .finite negative 0 minExponent

/-- A quotient divided by a power of two, as a quotient. -/
def scaled (num den : Nat) : Int → Nat × Nat
  | .ofNat e => (num, den * Nat.pow 2 e)
  | .negSucc e => (num * Nat.pow 2 (e + 1), den)

/-- The exponent that leaves a positive quotient all bits of a significand before the point, or the smallest one. -/
def exponentOf (num den : Nat) : Int :=
  let guess : Int := (num.log2 : Int) - den.log2 - (bits - 1 : Nat)
  let (n, d) := scaled num den guess
  max minExponent (if n / d < Nat.pow 2 (bits - 1) then guess - 1 else guess)

/-- The number nearest to a quotient; of two equally near ones the one with an even significand. Beyond the largest
numbers it is infinite. -/
def nearest (negative : Bool) (num den : Nat) : Double :=
  if num = 0 then zero negative
  else
    let e := exponentOf num den
    let (n, d) := scaled num den e
    let s := roundDiv n d
    let (s, e) := if s = Nat.pow 2 bits then (Nat.pow 2 (bits - 1), e + 1) else (s, e)
    if maxExponent < e then .infinite negative else .finite negative s e

def ofInt (n : Int) : Double := nearest (decide (n < 0)) n.natAbs 1

/-- No number but zero and the infinite ones has its leading digit farther from the point. -/
def maxPlaces : Nat := 400

/-- The place of the leading digit of a positive number, or a place beside it. -/
def leadingPlace (significand : Nat) (exponent : Int) : Int := exponent + (significand.log2 * 30103 / 100000 : Nat)

/-- The number nearest to a decimal significand times a power of ten. -/
def ofDecimal (negative : Bool) (significand : Nat) (exponent : Int) : Double :=
  let lead := leadingPlace significand exponent
  if significand = 0 ∨ lead < -maxPlaces then zero negative
  else if maxPlaces < lead then .infinite negative
  else
    match exponent with
    | .ofNat e => nearest negative (significand * Nat.pow 10 e) 1
    | .negSucc e => nearest negative significand (Nat.pow 10 (e + 1))

/-- A signed number of units of the smallest power of two. -/
def units (negative : Bool) (significand : Nat) (exponent : Int) : Int :=
  let n : Int := significand * Nat.pow 2 (exponent - minExponent).toNat
  if negative then -n else n

def neg : Double → Double
  | .finite negative s e => .finite (!negative) s e
  | .infinite negative => .infinite (!negative)
  | .undefined => .undefined

/-- The number nearest to a sum. A sum of nothing is negative only if both parts are. -/
def add : Double → Double → Double
  | .finite n s e, .finite m t f =>
    let total := units n s e + units m t f
    if total = 0 then zero (n && m) else nearest (decide (total < 0)) total.natAbs (Nat.pow 2 (-minExponent).toNat)
  | .finite _ _ _, .infinite m => .infinite m
  | .infinite n, .finite _ _ _ => .infinite n
  | .infinite n, .infinite m => if n = m then .infinite n else .undefined
  | .undefined, _ => .undefined
  | _, .undefined => .undefined

def sub (x y : Double) : Double := x.add y.neg

/-- The number nearest to a share, of so many equal ones. -/
def share (x : Double) (count : Nat) : Double :=
  match x with
  | .finite n s e =>
    let (num, den) := scaled s count (-e)
    nearest n num den
  | x => x

end Double

end DependencyAudit.Decimal
