import DependencyAudit.Decimal.Double
import DependencyAudit.Expression.Basic

namespace DependencyAudit.Expression

/-- The value of a literal as far as other literals depend on it. -/
inductive Value where
  | whole (n : Int)
  | real
  | imaginary
  | plain
  | tuple (items : List Value)
  | set
  | table

/-- Why an expression has no value as a literal. -/
inductive ValueFault where
  | noLiteral
  | noKey
  | setAsKey
  | tableAsKey
  | tooLarge
deriving DecidableEq

def ValueFault.message : ValueFault → Text
  | .noLiteral => "malformed node or string".toList
  | .noKey => "malformed node or string: None".toList
  | .setAsKey => "unhashable type: 'set'".toList
  | .tableAsKey => "unhashable type: 'dict'".toList
  | .tooLarge => "int too large to convert to float".toList

namespace Value

mutual

/-- Sets and tables, and tuples with any of them, cannot be told apart quickly, so that none is in a set or the key of a
table. -/
def keyFault? : Value → Option ValueFault
  | .set => some .setAsKey
  | .table => some .tableAsKey
  | .tuple items => firstKeyFault? items
  | _ => none

def firstKeyFault? : List Value → Option ValueFault
  | [] => none
  | v :: vs =>
    match v.keyFault? with
    | some f => some f
    | none => firstKeyFault? vs

end

def asKey (v : Value) : Except ValueFault Unit := v.keyFault?.elim (.ok ()) .error

def ofNumber : Number → Value
  | .whole n _ => .whole n
  | .real => .real
  | .imaginary => .imaginary

/-- The value of a number without a sign. -/
def ofUnsigned : Expr → Except ValueFault Value
  | .number n => .ok (ofNumber n)
  | _ => .error .noLiteral

def negated : Value → Value
  | .whole n => .whole (-n)
  | v => v

/-- The value of a number that may have a sign. -/
def ofSigned : Expr → Except ValueFault Value
  | .signed sign e =>
    if sign = ['+'] then ofUnsigned e
    else if sign = ['-'] then (ofUnsigned e).map negated
    else .error .noLiteral
  | e => ofUnsigned e

/-- Whether a whole number is beyond all numbers of double precision. -/
def isBeyondReals (n : Int) : Bool :=
  match Decimal.Double.ofDecimal (n < 0) n.natAbs 0 with
  | .infinite _ => true
  | _ => false

/-- A real and an imaginary part make one number. -/
def ofParts (sign : Text) (left right : Expr) : Except ValueFault Value :=
  if sign ≠ ['+'] ∧ sign ≠ ['-'] then .error .noLiteral
  else
    (ofSigned left).bind fun l => (ofUnsigned right).bind fun r =>
      match l, r with
      | .whole n, .imaginary => if isBeyondReals n then .error .tooLarge else .ok .imaginary
      | .real, .imaginary => .ok .imaginary
      | _, _ => .error .noLiteral

mutual

/-- The value of a literal: numbers, texts, the constants, and tuples, sets and tables of literals. The only call is one
that gives the empty set. -/
def ofExpr : Expr → Except ValueFault Value
  | .text | .bytes | .constant _ | .ellipsis => .ok .plain
  | .tuple items => (ofTuple items).map .tuple
  | .set items => ofSet items
  | .table entries => ofTable entries
  | .call (.name f) given => if f = "set".toList ∧ given = ⟨0, 0, false⟩ then .ok .set else .error .noLiteral
  | .combined sign left right => ofParts sign left right
  | e => ofSigned e

def ofTuple : List Expr → Except ValueFault (List Value)
  | [] => .ok []
  | e :: es => (ofExpr e).bind fun v => (ofTuple es).map (v :: ·)

def ofSet : List Expr → Except ValueFault Value
  | [] => .ok .set
  | e :: es => (ofExpr e).bind fun v => v.asKey.bind fun _ => ofSet es

def ofTable : List (Option Expr × Expr) → Except ValueFault Value
  | [] => .ok .table
  | (none, _) :: _ => .error .noKey
  | (some key, e) :: es =>
    (ofExpr key).bind fun k => (ofExpr e).bind fun _ => k.asKey.bind fun _ => ofTable es

end

end Value

end DependencyAudit.Expression
