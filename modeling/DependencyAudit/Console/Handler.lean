import DependencyAudit.Expression.Parsing
import DependencyAudit.Expression.Value
import DependencyAudit.Text.Quoted

namespace DependencyAudit

/-! What a tag gives to the handler of an event: a name and parameters in brackets, of which either may be missing. The
parameters are literals. -/

namespace Handler

/-- Why what is given is of no use to a handler. -/
inductive Fault where
  | expression (parameters given : Text) (f : Expression.Fault)
  | value (given : Text) (f : Expression.ValueFault)
deriving DecidableEq

def Fault.message : Fault → Text
  | .expression parameters given f =>
    "error parsing ".toList ++ Text.quoted parameters ++ " in ".toList ++ Text.quoted given ++ "; ".toList ++ f.message
  | .value given f => "error parsing ".toList ++ Text.quoted given ++ "; ".toList ++ f.message

/-- The parameters in what is given. If it is not a name and parameters on one line, it is all taken for parameters. -/
def parameters (given : Text) : Text :=
  let t := Text.trim given
  match t.dropWhile fun c => Text.isWord c || c = '.' with
  | [] => "()".toList
  | '(' :: rest => if rest.getLast? = some ')' ∧ !rest.contains '\n' then '(' :: rest else t
  | _ => t

/-- Checks that the parameters are literals. -/
def check (given : Text) : Except Fault Unit :=
  let t := parameters given
  match Expression.Expr.ofText t with
  | .error f => .error (.expression t given f)
  | .ok e => ((Expression.Value.ofExpr e).mapError (.value given)).map fun _ => ()

end Handler

end DependencyAudit
