import DependencyAudit.Decimal.Double
import DependencyAudit.Text.CodePoint

namespace DependencyAudit

/-- A JSON value. Members keep the order of first appearance; a number with a fraction or an exponent is of double
precision. -/
inductive Json where
  | null
  | bool (b : Bool)
  | integer (n : Int)
  | real (x : Decimal.Double)
  | string (s : List CodePoint)
  | array (items : List Json)
  | object (members : List (List CodePoint × Json))

namespace Json

/-- An integer with more digits is neither read nor printed. -/
def maxDigits : Nat := 4300

def ofText (t : Text) : Json := .string (CodePoint.ofText t)

/-- Sets a member: a name that is there keeps its place and takes the new value. -/
def setMember (name : List CodePoint) (value : Json) :
    List (List CodePoint × Json) → List (List CodePoint × Json)
  | [] => [(name, value)]
  | (n, v) :: ms => if n = name then (n, value) :: ms else (n, v) :: setMember name value ms

/-- The value of a member of an object. -/
def member? (name : Text) : Json → Option Json
  | .object members => (members.find? fun m => m.1 = CodePoint.ofText name).map (·.2)
  | _ => none

end Json

end DependencyAudit
