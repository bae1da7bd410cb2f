import DependencyAudit.Expression.Parameters
import DependencyAudit.Expression.Quotation

namespace DependencyAudit.Expression

open Reading

/-! The grammar of expressions. Each form is read with a way to read the forms inside it. -/

namespace Grammar

/-- The way to read the forms inside. -/
abbrev Self := Rule → Reading Expr

/-- Words that can be called, but once took what follows them without brackets. -/
def isFormerCommand (t : Text) : Bool := t = "print".toList || t = "exec".toList

/-- Several of a form make a tuple, and so does one with a comma. -/
def listed (item : Reading Expr) : Reading Expr := do
  let first ← item
  let more ← many (sign "," >>= fun _ => item)
  match more, ← optional (sign ",") with
  | [], none => return first
  | _, _ => return .tuple (first :: more)

def expressions (self : Self) : Reading Expr := listed (self .expression)

def starExpressions (self : Self) : Reading Expr := listed (self .starExpression)

/-- A name that a value is bound to within an expression. -/
def binding (self : Self) : Reading Expr := do
  let _ ← name
  sign ":="
  let _ ← self .expression
  return .other .binding

def notBinding : Reading Unit := notAhead (sign ":=")

def namedExpression (self : Self) : Reading Expr :=
  firstOf [binding self, self .misbound, (do let e ← self .expression; notBinding; return e)]

def starNamed (self : Self) : Reading Expr :=
  firstOf [(do sign "*"; return .starred (← self .bitOr)), namedExpression self]

def starNamedList (self : Self) : Reading (List Expr) := do
  let items ← separated (starNamed self)
  let _ ← optional (sign ",")
  return items

/-! ### Comprehensions -/

/-- A clause that runs through values. -/
def forClause (self : Self) : Reading Unit :=
  commit
    (do
      let _ ← optional (sign "async")
      sign "for"
      let target ← self .starTarget
      let _ ← many (sign "," >>= fun _ => self .starTarget)
      let _ ← optional (sign ",")
      sign "in"
      return target)
    (fun _ => do
      let _ ← self .disjunction
      let _ ← many (sign "if" >>= fun _ => self .disjunction))
    (mistakes [do
      let _ ← optional (sign "async")
      sign "for"
      let e ← starExpressions self
      return e.notTarget?.map fun e => .target e.description])

def forClauses (self : Self) : Reading Unit := do
  let _ ← many1 (forClause self)

def starredExpression (self : Self) : Reading Expr :=
  firstOf [
    (do sign "*"; return .starred (← self .expression)),
    blunders [mistake .bareStarred (sign "*")]]

def badComprehension (self : Self) : Reading Expr :=
  mistakes [
    mistake .starredComprehension (do
      firstOf [sign "(", sign "\x7b"]
      let _ ← starredExpression self
      forClauses self),
    mistake .bareComprehensionTarget (do
      sign "\x7b"
      let _ ← starNamed self
      sign ","
      let _ ← starNamedList self
      forClauses self),
    mistake .bareComprehensionTarget (do
      sign "\x7b"
      let _ ← starNamed self
      sign ","
      forClauses self)]

def generator (self : Self) : Reading Expr :=
  firstOf [
    (do
      sign "("
      let _ ← firstOf [binding self, (do let e ← self .expression; notBinding; return e)]
      forClauses self
      sign ")"
      return .other .generator),
    badComprehension self]

/-! ### Brackets -/

def tuple (self : Self) : Reading Expr := do
  sign "("
  let items ← optional (do
    let first ← starNamed self
    sign ","
    let more ← optional (starNamedList self)
    return first :: more.getD [])
  sign ")"
  return .tuple (items.getD [])

def yielding (self : Self) : Reading Expr := do
  sign "yield"
  firstOf [
    (do sign "from"; let _ ← self .expression; return .other .yielding),
    (do let _ ← optional (starExpressions self); return .other .yielding)]

def group (self : Self) : Reading Expr :=
  firstOf [
    (do
      sign "("
      let e ← firstOf [yielding self, namedExpression self]
      sign ")"
      return e),
    mistakes [
      mistake .starredGroup (do sign "("; let _ ← starredExpression self; sign ")"),
      mistake .doubleStarredGroup (do sign "("; sign "**"; let _ ← self .expression; sign ")")]]

def set (self : Self) : Reading Expr := do
  sign "\x7b"
  let items ← starNamedList self
  sign "\x7d"
  return .set items

def pair (self : Self) : Reading (Option Expr × Expr) := do
  let key ← self .expression
  sign ":"
  return (some key, ← self .expression)

def entry (self : Self) : Reading (Option Expr × Expr) :=
  firstOf [(do sign "**"; return (none, ← self .bitOr)), pair self]

def starredValue (self : Self) : Reading (Option Mistake) :=
  mistake .starredValue (do let _ ← self .expression; sign ":"; sign "*"; self .bitOr)

def missingValue (self : Self) : Reading (Option Mistake) :=
  mistake .valueMissing
    (do let _ ← self .expression; sign ":"; ahead (firstOf [sign "\x7d", sign ","]))

def badEntry (self : Self) : Reading Unit :=
  blunders [
    mistake .colonMissing (do let _ ← self .expression; notAhead (sign ":")),
    starredValue self,
    missingValue self]

def badEntries (self : Self) : Reading Unit :=
  firstOf [
    (do let _ ← separated (entry self); sign ","; badEntry self),
    blunders [starredValue self, missingValue self]]

def table (self : Self) : Reading Expr :=
  firstOf [
    (do
      sign "\x7b"
      let entries ← optional (do
        let entries ← separated (entry self)
        let _ ← optional (sign ",")
        return entries)
      sign "\x7d"
      return .table (entries.getD [])),
    (do sign "\x7b"; badEntries self; sign "\x7d"; return .table [])]

def tableComprehension (self : Self) : Reading Expr :=
  firstOf [
    (do
      sign "\x7b"
      let _ ← pair self
      forClauses self
      sign "\x7d"
      return .other .tableComprehension),
    mistakes [mistake .tableInComprehension
      (do sign "\x7b"; sign "**"; let _ ← self .bitOr; forClauses self; sign "\x7d")]]

def setComprehension (self : Self) : Reading Expr :=
  firstOf [
    (do
      sign "\x7b"
      let _ ← namedExpression self
      forClauses self
      sign "\x7d"
      return .other .setComprehension),
    badComprehension self]

/-! ### Calls -/

/-- What is given by name, from a table of names, or in order by a star. -/
inductive Given where
  | named
  | unpacked
  | starred
deriving DecidableEq

def Arguments.of (inOrder : Nat) (given : List Given) : Arguments :=
  ⟨inOrder + given.count .starred, given.count .named + given.count .unpacked, given.contains .unpacked⟩

def badNamed (self : Self) : Reading Given :=
  mistakes [
    (do
      let w ← firstOf (["True", "False", "None"].map fun w => sign w >>= fun _ => pure w)
      sign "="
      return some (.target w.toList)),
    mistake .equalsForName
      (do let _ ← name; sign "="; let _ ← self .expression; forClauses self),
    mistake .assignmentInCall (do
      notAhead (do let _ ← name; sign "=")
      let _ ← self .expression
      sign "=")]

def named (self : Self) : Reading Given := do
  let _ ← name
  sign "="
  let _ ← self .expression
  return .named

def namedOrStarred (self : Self) : Reading Given :=
  firstOf [badNamed self, named self, (do let _ ← starredExpression self; return .starred)]

def namedOrUnpacked (self : Self) : Reading Given :=
  firstOf [badNamed self, named self, (do sign "**"; let _ ← self .expression; return .unpacked)]

def givenList (self : Self) : Reading (List Given) :=
  firstOf [
    (do
      let front ← separated (namedOrStarred self)
      sign ","
      return front ++ (← separated (namedOrUnpacked self))),
    separated (namedOrStarred self),
    separated (namedOrUnpacked self)]

/-- A value that is given in order. -/
def inOrder (self : Self) : Reading Expr :=
  firstOf [
    starredExpression self,
    (do
      let e ← firstOf [binding self, (do let e ← self .expression; notBinding; return e)]
      notAhead (sign "=")
      return e)]

def givenArguments (self : Self) : Reading Arguments :=
  firstOf [
    (do
      let front ← separated (inOrder self)
      let rest ← optional (sign "," >>= fun _ => givenList self)
      return Arguments.of front.length (rest.getD [])),
    (do return Arguments.of 0 (← givenList self))]

def badArguments (self : Self) : Reading Arguments :=
  mistakes [
    mistake .unpackedTooLate (do
      firstOf [
        (do let _ ← separated (inOrder self); sign ","; let _ ← givenList self),
        (do let _ ← givenList self)]
      sign ","
      separated (do let e ← starredExpression self; notAhead (sign "="); return e)),
    mistake .bareGenerator (do
      let _ ← self .expression
      forClauses self
      sign ","
      optional (firstOf [
        (do let _ ← givenArguments self),
        (do let _ ← self .expression; forClauses self)])),
    mistake .equalsForName
      (do let _ ← name; sign "="; let _ ← self .expression; forClauses self),
    (do
      let given ← givenArguments self
      forClauses self
      return if given.inOrder ≤ 1 then none else some .bareGenerator),
    mistake .bareGenerator
      (do let _ ← givenArguments self; sign ","; let _ ← self .expression; forClauses self),
    (do
      let given ← givenArguments self
      sign ","
      let _ ← givenArguments self
      return some (.inOrderAfter given.unpacked))]

def arguments (self : Self) : Reading Arguments :=
  firstOf [
    (do
      let given ← givenArguments self
      let _ ← optional (sign ",")
      ahead (sign ")")
      return given),
    badArguments self]

/-! ### From atoms to expressions -/

/-- A whole number with too many decimal digits is refused. -/
def maxDigits : Nat := 4300

def number : Reading Expr := do
  let n ← take fun
    | .number n => some n
    | _ => none
  match n with
  | .whole _ digits => if maxDigits < digits then fail (.longNumber digits) else return .number n
  | _ => return .number n

/-- Texts side by side are one. -/
def quotations : Reading Expr := do
  let qs ← many1 do
    let line := (← peek).line
    let q ← take fun
      | .quotation q => some q
      | _ => none
    return (q, line)
  fun source p =>
    match joinQuotations source.inText none false qs with
    | .ok e => .found e p
    | .error f => .failed f p

def atom (self : Self) : Reading Expr :=
  firstOf [
    (do return .name (← name)),
    firstOf (["True", "False", "None"].map fun w => sign w >>= fun _ => pure (.constant w.toList)),
    self .quotations,
    number,
    (do ahead (sign "("); firstOf [tuple self, group self, generator self]),
    (do ahead (sign "\x7b"); firstOf [table self, set self, tableComprehension self, setComprehension self]),
    (do sign "..."; return .ellipsis)]

def call (self : Self) (function : Expr) : Reading Expr := do
  sign "("
  let given ← optional (arguments self)
  sign ")"
  return .call function (given.getD ⟨0, 0, false⟩)

/-- One step from an expression to what it has or gives. -/
def trailer (self : Self) (e : Expr) : Reading Expr :=
  firstOf [
    (do sign "."; let _ ← name; return .other .attribute),
    (do let _ ← generator self; return .call e ⟨1, 0, false⟩),
    call self e]

/-- Steps on as often as it goes, but so many times at most. -/
def follow (step : Expr → Reading Expr) : Nat → Expr → Reading Expr
  | 0, e => pure e
  | more + 1, e => do
    match ← optional (step e) with
    | some e => follow step more e
    | none => pure e

def followed (first : Reading Expr) (step : Expr → Reading Expr) : Reading Expr := do
  let e ← first
  fun source p => follow step (source.tokens.size + 1 - p.place) e source p

def primary (self : Self) : Reading Expr := followed (atom self) (trailer self)

/-- Operands with signs between them, which belong together from the left to the right. -/
def combined (operand : Reading Expr) (signs : List String) : Reading Expr :=
  followed operand fun left => do
    let w ← firstOf (signs.map fun w => sign w >>= fun _ => pure w)
    return .combined w.toList left (← operand)

def power (self : Self) : Reading Expr := do
  let e ← self .awaited
  match ← optional (sign "**" >>= fun _ => self .factor) with
  | some exponent => return .combined "**".toList e exponent
  | none => return e

def factor (self : Self) : Reading Expr :=
  firstOf (["+", "-", "~"].map (fun w => do sign w; return .signed w.toList (← self .factor)) ++ [power self])

/-- A sign of a comparison and its right side. A sign of two words may also be one of one word before an operand. -/
def compared (self : Self) : Reading Bool :=
  firstOf [
    (do
      firstOf (["==", "!=", "<=", "<", ">=", ">"].map sign)
      let _ ← self .bitOr
      return false),
    (do sign "not"; sign "in"; let _ ← self .bitOr; return false),
    (do sign "in"; let _ ← self .bitOr; return true),
    (do sign "is"; sign "not"; let _ ← self .bitOr; return false),
    (do sign "is"; let _ ← self .bitOr; return false)]

def comparison (self : Self) : Reading Expr := do
  let e ← self .bitOr
  match ← many (compared self) with
  | [] => return e
  | true :: _ => return .member e
  | false :: _ => return .other .comparison

def inversion (self : Self) : Reading Expr :=
  firstOf [
    (do sign "not"; return .signed "not".toList (← self .inversion)),
    comparison self]

/-- Operands with one word between each two. -/
def joined (operand : Reading Expr) (w : String) : Reading Expr := do
  let e ← operand
  match ← many (sign w >>= fun _ => operand) with
  | [] => return e
  | _ => return .other .operation

def conditional (self : Self) : Reading Expr := do
  let _ ← self .disjunction
  sign "if"
  let _ ← self .disjunction
  sign "else"
  let _ ← self .expression
  return .other .conditional

def lambda (self : Self) : Reading Expr := do
  sign "lambda"
  let _ ← optional (Parameters.all self)
  sign ":"
  let _ ← self .expression
  return .other .lambda

def plainExpression (self : Self) : Reading Expr :=
  firstOf [conditional self, self .disjunction, lambda self]

/-- A name that one of the words starts with which are keywords in some places. -/
def softKeyword : Reading Unit :=
  take fun
    | .name t => if ["_", "case", "match"].any (t.isPrefixOf ·.toList) then some () else none
    | _ => none

/-- Two expressions side by side in brackets lack a comma, and a condition needs its other branch. -/
def badExpression (self : Self) : Reading Expr :=
  mistakes [
    (do
      notAhead (firstOf [(do let _ ← name; let _ ← take fun | .quotation q => some q | _ => none), softKeyword])
      let e ← self .disjunction
      let _ ← quietly (plainExpression self)
      match e with
      | .name t => if isFormerCommand t then return none
      | _ => pure ()
      return if (← depthBefore) = 0 then none else some .commaMissing),
    mistake .elseMissing (do
      let _ ← self .disjunction
      sign "if"
      let _ ← self .disjunction
      notAhead (firstOf [sign "else", sign ":"]))]

def formerCommand (self : Self) : Reading Expr :=
  mistakes [do
    let t ← name
    notAhead (sign "(")
    let _ ← starExpressions self
    return if isFormerCommand t then some (.callMissing t) else none]

def expression (self : Self) : Reading Expr :=
  firstOf [badExpression self, formerCommand self, plainExpression self]

/-- A value that is bound by the wrong sign or to something else than a name. -/
def misbound (self : Self) : Reading Expr :=
  let notBound := notAhead (firstOf [sign "=", sign ":="])
  mistakes [
    (do
      let e ← self .expression
      sign ":="
      let _ ← self .expression
      return some (.boundBySign e.description)),
    mistake .equalsForName (do let _ ← name; sign "="; let _ ← self .bitOr; notBound),
    (do
      notAhead (firstOf ([tuple self, generator self] ++
        ["True", "None", "False"].map fun w => sign w >>= fun _ => pure (.constant w.toList)))
      let e ← self .bitOr
      sign "="
      let _ ← self .bitOr
      notBound
      return some (.equalsFor e.description))]

/-! ### Targets -/

/-- What goes on after an expression that is no target itself. -/
def goesOn : Reading Unit := firstOf [sign "(", sign "[", sign "."]

def targetPrimary (self : Self) : Reading Expr :=
  followed (do let e ← atom self; ahead goesOn; return e) fun e => do
    let e ← trailer self e
    ahead goesOn
    return e

def targetTuple (self : Self) : Reading Expr := do
  let first ← self .starTarget
  match ← many (sign "," >>= fun _ => self .starTarget) with
  | [] => sign ","
  | _ => let _ ← optional (sign ",")
  return .tuple [first]

def targetAtom (self : Self) : Reading Expr :=
  firstOf [
    (do return .name (← name)),
    (do sign "("; let e ← self .plainTarget; sign ")"; return e),
    (do sign "("; let _ ← optional (targetTuple self); sign ")"; return .tuple [])]

def plainTarget (self : Self) : Reading Expr :=
  firstOf [
    (do
      let _ ← self .targetPrimary
      sign "."
      let _ ← name
      notAhead goesOn
      return .other .attribute),
    targetAtom self]

def starTarget (self : Self) : Reading Expr :=
  firstOf [
    (do
      sign "*"
      notAhead (sign "*")
      return .starred (← self .starTarget)),
    self .plainTarget]

/-! ### All rules -/

def rule (self : Self) : Rule → Reading Expr
  | .expression => expression self
  | .starExpression => firstOf [(do sign "*"; return .starred (← self .bitOr)), self .expression]
  | .misbound => misbound self
  | .disjunction => joined (self .conjunction) "or"
  | .conjunction => joined (self .inversion) "and"
  | .inversion => inversion self
  | .bitOr => combined (self .bitXor) ["|"]
  | .bitXor => combined (self .bitAnd) ["^"]
  | .bitAnd => combined (self .shift) ["&"]
  | .shift => combined (self .sum) ["<<", ">>"]
  | .sum => combined (self .term) ["+", "-"]
  | .term => combined (self .factor) ["*", "/", "//", "%", "@"]
  | .factor => factor self
  | .awaited => firstOf [(do sign "await"; let _ ← self .primary; return .other .awaiting), self .primary]
  | .primary => primary self
  | .quotations => quotations
  | .starTarget => starTarget self
  | .plainTarget => plainTarget self
  | .targetPrimary => targetPrimary self

/-- Reads a form with the forms inside it, nested so deep at most. -/
def read : Nat → Rule → Reading Expr
  | 0, _ => missing
  | depth + 1, r => once r (rule (read depth) r)

/-- How deep forms may be nested in a text with so many tokens. No form is read inside itself at one place. -/
def depthFor (tokens : Nat) : Nat := 40 * (tokens + 1)

/-- A whole text. -/
def whole (self : Self) : Reading Expr := do
  let e ← expressions self
  let _ ← many (take fun
    | .lineEnd => some ()
    | _ => none)
  take fun
    | .finish => some ()
    | _ => none
  return e

end Grammar

end DependencyAudit.Expression
