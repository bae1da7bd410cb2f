import DependencyAudit.Expression.Grammar

namespace DependencyAudit.Expression

namespace Source

/-- Reads a form from the start; so many tokens have been looked at before. -/
def attempt (source : Source) (form : Grammar.Self → Reading Expr) (explains : Bool) (seen : Nat) : Outcome Expr :=
  form (Grammar.read (Grammar.depthFor source.tokens.size)) source ⟨0, seen, explains, ∅⟩

/-- The fault to tell if one has been found after so many tokens: a fault of the lexemes behind them comes first, and so
does an open bracket if it is on an earlier line than the last of the tokens. A hint stays if the end of the text has
been seen when it was found. -/
def firstFault (source : Source) (seen : Nat) (f : Fault) : Fault :=
  match source.halt with
  | none => f
  | some h =>
    if source.tokens.size < seen then f
    else if f ≠ .ill ∧ h.ranOut ∧ source.tokens.size ≤ seen then f
    else if h.fault.isLocal then .scan h.fault
    else
      match h.brackets with
      | [] => f
      | b :: _ =>
        if ((source.tokens[seen - 1]?).map (·.line)).any (b.line < ·) then .scan (.notClosed b.opening) else f

/-- The fault of a text for which there is no hint. -/
def plainFault (source : Source) (last seen : Nat) : Fault :=
  match (source.tokens[last - 1]?).map Token.lexeme with
  | some .indent => .unexpectedIndent
  | some .dedent => .unexpectedDedent
  | _ => source.firstFault seen .ill

/-- Reads a form. Mistakes are looked for only if it cannot be read. -/
def parse (source : Source) (form : Grammar.Self → Reading Expr) : Except Fault Expr :=
  match source.attempt form false 0 with
  | .found e _ => .ok e
  | .failed f p => .error (source.firstFault p.seen f)
  | .missing p =>
    match source.attempt form true p.seen with
    | .failed f q => .error (source.firstFault q.seen f)
    | .found _ q | .missing q => .error (source.plainFault p.seen q.seen)

end Source

/-- Checks an expression in a text, which counts as if it stood in brackets. The fuel bounds how deep such expressions
are nested. -/
def checkInText : Nat → Nat → Text → Except Fault Unit
  | 0, _, _ => .ok ()
  | fuel + 1, line, t =>
    let scanned := Scanned.ofText line ('(' :: t ++ [')'])
    let source : Source := ⟨scanned.tokens.toArray, scanned.halt, checkInText fuel⟩
    ((source.parse Grammar.starExpressions).mapError Fault.inField).map fun _ => ()

/-- The expression that a text spells. Each expression in a text is shorter than the text. -/
def Expr.ofText (t : Text) : Except Fault Expr :=
  let t := t.dropWhile fun c => c = ' ' || c = '\t'
  if t.contains '\x00' then .error .nul
  else
    let scanned := Scanned.ofText 1 t
    (⟨scanned.tokens.toArray, scanned.halt, checkInText t.length⟩ : Source).parse Grammar.whole

end DependencyAudit.Expression
