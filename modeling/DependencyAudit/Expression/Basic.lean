import DependencyAudit.Expression.Number

namespace DependencyAudit.Expression

/-- What a call is given: so many values in order, of which a starred one counts as one, so many by name, and whether
some come from a table of names. -/
structure Arguments where
  inOrder : Nat
  byName : Nat
  unpacked : Bool
deriving DecidableEq

/-- The forms of expressions of which nothing but the form matters. -/
inductive Form where
  | attribute
  | lambda
  | operation
  | comparison
  | conditional
  | binding
  | generator
  | setComprehension
  | tableComprehension
  | yielding
  | awaiting
deriving DecidableEq

/-- An expression as far as literals are told apart and mistakes are named. An entry of a table has no key if it stands
for all entries of another table. -/
inductive Expr where
  | name (t : Text)
  | number (n : Number)
  | text
  | bytes
  | formatted
  | constant (w : Text)
  | ellipsis
  | tuple (items : List Expr)
  | set (items : List Expr)
  | table (entries : List (Option Expr × Expr))
  | starred (e : Expr)
  | signed (sign : Text) (e : Expr)
  | combined (sign : Text) (left right : Expr)
  | member (item : Expr)
  | call (function : Expr) (given : Arguments)
  | other (f : Form)

def Form.description : Form → String
  | .attribute => "attribute"
  | .lambda => "lambda"
  | .operation => "expression"
  | .comparison => "comparison"
  | .conditional => "conditional expression"
  | .binding => "named expression"
  | .generator => "generator expression"
  | .setComprehension => "set comprehension"
  | .tableComprehension => "dict comprehension"
  | .yielding => "yield expression"
  | .awaiting => "await expression"

namespace Expr

/-- What an expression is called in messages. -/
def description : Expr → Text
  | .name _ => "name".toList
  | .number _ | .text | .bytes => "literal".toList
  | .formatted => "f-string expression".toList
  | .constant w => w
  | .ellipsis => "ellipsis".toList
  | .tuple _ => "tuple".toList
  | .set _ => "set display".toList
  | .table _ => "dict literal".toList
  | .starred _ => "starred".toList
  | .signed _ _ | .combined _ _ _ => Form.operation.description.toList
  | .member _ => Form.comparison.description.toList
  | .call _ _ => "function call".toList
  | .other f => f.description.toList

mutual

/-- The first part of an expression that no value can be bound to. -/
def notTarget? : Expr → Option Expr
  | .name _ | .other .attribute | .other .comparison => none
  | .tuple items => firstNotTarget? items
  | .starred e | .member e => e.notTarget?
  | e => some e

def firstNotTarget? : List Expr → Option Expr
  | [] => none
  | e :: es =>
    match e.notTarget? with
    | some found => some found
    | none => firstNotTarget? es

end

end Expr

end DependencyAudit.Expression
