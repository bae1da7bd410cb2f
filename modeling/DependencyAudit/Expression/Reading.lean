import DependencyAudit.Expression.Fault
import Std.Data.HashMap

namespace DependencyAudit.Expression

/-- The forms of expressions that are read once at each place. -/
inductive Rule where
  | expression
  | starExpression
  | misbound
  | disjunction
  | conjunction
  | inversion
  | bitOr
  | bitXor
  | bitAnd
  | shift
  | sum
  | term
  | factor
  | awaited
  | primary
  | quotations
  | starTarget
  | plainTarget
  | targetPrimary
deriving DecidableEq, Hashable

/-- What is read: tokens, the fault behind them if they do not reach the end of the text, and the check of expressions
in texts. -/
structure Source where
  tokens : Array Token
  halt : Option Halt
  inText : Nat → Text → Except Fault Unit

/-- How far reading has got: the place, how many tokens have been looked at, whether mistakes are looked for, and what
has been read of the forms at places. -/
structure Progress where
  place : Nat
  seen : Nat
  explains : Bool
  known : Std.HashMap (Rule × Nat) (Option (Expr × Nat))

/-- What comes of reading. -/
inductive Outcome (α : Type) where
  | found (a : α) (p : Progress)
  | missing (p : Progress)
  | failed (f : Fault) (p : Progress)

/-- A way to read something. -/
def Reading (α : Type) : Type := Source → Progress → Outcome α

namespace Reading

variable {α β : Type}

instance : Monad Reading where
  pure a := fun _ p => .found a p
  bind r next := fun source p =>
    match r source p with
    | .found a p => next a source p
    | .missing p => .missing p
    | .failed f p => .failed f p

def missing : Reading α := fun _ p => .missing p

def fail (f : Fault) : Reading α := fun _ p => .failed f p

/-- The token at the place. -/
def peek : Reading Token := fun source p =>
  let p := { p with seen := max p.seen (p.place + 1) }
  match source.tokens[p.place]?, source.halt with
  | some t, _ => .found t p
  | none, some h => .failed (.scan h.fault) p
  | none, none => .missing p

/-- Takes the token at the place if it has some meaning. -/
def take (meaning : Lexeme → Option α) : Reading α := do
  match meaning (← peek).lexeme with
  | some a => fun _ p => .found a { p with place := p.place + 1 }
  | none => missing

/-- Takes a sign or a keyword. -/
def sign (w : String) : Reading Unit :=
  take fun
    | .sign t | .keyword t => if t = w.toList then some () else none
    | _ => none

def name : Reading Text :=
  take fun
    | .name t => some t
    | _ => none

/-- Reads the first of two forms, and if it is missing the second one. -/
def orElse (r s : Reading α) : Reading α := fun source p =>
  match r source p with
  | .missing q => s source { q with place := p.place }
  | o => o

def firstOf : List (Reading α) → Reading α
  | [] => missing
  | [r] => r
  | r :: rs => orElse r (firstOf rs)

def optional (r : Reading α) : Reading (Option α) := orElse (r >>= fun a => pure (some a)) (pure none)

/-- Looks for a form without taking it. -/
def ahead (r : Reading α) : Reading Unit := fun source p =>
  match r source p with
  | .found _ q => .found () { q with place := p.place }
  | .missing q => .missing q
  | .failed f q => .failed f q

/-- Makes sure that a form does not follow. -/
def notAhead (r : Reading α) : Reading Unit := fun source p =>
  match r source p with
  | .found _ q => .missing q
  | .missing q => .found () { q with place := p.place }
  | .failed f q => .failed f q

/-- Reads a form as often as it goes, but so many times at most. -/
def upTo (r : Reading α) : Nat → Reading (List α)
  | 0 => pure []
  | more + 1 => orElse (do return (← r) :: (← upTo r more)) (pure [])

/-- Reads a form as often as it goes. Each time takes a token at least, and what follows the last time is looked at
too. -/
def many (r : Reading α) : Reading (List α) := fun source p => upTo r (source.tokens.size + 1 - p.place) source p

def many1 (r : Reading α) : Reading (List α) := do return (← r) :: (← many r)

/-- Reads a form several times with commas between. -/
def separated (r : Reading α) : Reading (List α) := do
  return (← r) :: (← many (sign "," >>= fun _ => r))

/-- Reads what follows a head if the head is there, and only else the other form. -/
def commit (head : Reading α) (body : α → Reading β) (other : Reading β) : Reading β := fun source p =>
  match head source p with
  | .found a q => body a source q
  | .missing q => other source { q with place := p.place }
  | .failed f q => .failed f q

/-- Reads a form only while mistakes are looked for. -/
def whenExplaining (r : Reading α) : Reading α := fun source p => if p.explains then r source p else .missing p

/-- Reads a form without looking for mistakes in it. -/
def quietly (r : Reading α) : Reading α := fun source p =>
  match r source { p with explains := false } with
  | .found a q => .found a { q with explains := p.explains }
  | .missing q => .missing { q with explains := p.explains }
  | .failed f q => .failed f { q with explains := p.explains }

/-- Looks for mistakes at any time; the first form that is there decides whether it is one. -/
def blunders (forms : List (Reading (Option Mistake))) : Reading α := do
  match ← firstOf forms with
  | some m => fail (.mistake m)
  | none => missing

/-- Looks for mistakes that are told only if a text cannot be read. -/
def mistakes (forms : List (Reading (Option Mistake))) : Reading α := whenExplaining (blunders forms)

/-- A mistake if a form is there. -/
def mistake (m : Mistake) (form : Reading α) : Reading (Option Mistake) := do
  let _ ← form
  return some m

/-- The brackets that are open after the token before the place. -/
def depthBefore : Reading Nat := fun source p =>
  .found (((source.tokens[p.place - 1]?).map (·.depth)).getD 0) p

/-- Reads a form once at each place. -/
def once (rule : Rule) (r : Reading Expr) : Reading Expr := fun source p =>
  match p.known[(rule, p.place)]? with
  | some (some (e, stop)) => .found e { p with place := stop }
  | some none => .missing p
  | none =>
    match r source p with
    | .found e q => .found e { q with known := q.known.insert (rule, p.place) (some (e, q.place)) }
    | .missing q => .missing { q with known := q.known.insert (rule, p.place) none }
    | .failed f q => .failed f q

end Reading

end DependencyAudit.Expression
