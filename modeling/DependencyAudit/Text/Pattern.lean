import DependencyAudit.Text.Word

namespace DependencyAudit.Text

/-- A place in a text, with the character before it, the text behind it, and the stretches that have been marked. -/
structure Cursor where
  before : Option Char
  rest : Text
  place : Nat
  marks : List (Nat × Nat)

namespace Cursor

/-- Whether a word begins or ends here. -/
def atEdge (c : Cursor) : Bool := c.before.any isWord != c.rest.head?.any isWord

/-- Marks what stands between a place and this one. -/
def mark (c : Cursor) (start : Nat) : Cursor := { c with marks := c.marks ++ [(start, c.place)] }

end Cursor

/-- A form that stretches of text can have. Of two forms the first is tried first. A form that is repeated is repeated
as often as it can be if it is eager, and else as seldom. A test looks at a place and takes nothing. -/
inductive Pattern where
  | one (p : Char → Bool)
  | both (p q : Pattern)
  | either (p q : Pattern)
  | repeated (p : Pattern) (least : Nat) (most : Option Nat) (eager : Bool)
  | test (p : Cursor → Bool)
  | marked (p : Pattern)

namespace Pattern

/-- One try after another. -/
def attempt {α : Type} (first : Option α) (second : Unit → Option α) : Option α :=
  match first with
  | some a => some a
  | none => second ()

/-- Takes steps, so many at most, and then goes on. -/
def runUpTo {α : Type} (step : Cursor → (Cursor → Option α) → Option α) (eager : Bool) (next : Cursor → Option α) :
    Nat → Cursor → Option α
  | 0, c => next c
  | more + 1, c =>
    if eager then attempt (step c (runUpTo step eager next more)) fun _ => next c
    else attempt (next c) fun _ => step c (runUpTo step eager next more)

/-- Takes so many steps and then goes on. -/
def runTimes {α : Type} (step : Cursor → (Cursor → Option α) → Option α) (next : Cursor → Option α) :
    Nat → Cursor → Option α
  | 0, c => next c
  | least + 1, c => step c (runTimes step next least)

/-- The first way to match from a place after which one can go on. A form without a bound on its repetitions has to take
a character each time. -/
def run {α : Type} : Pattern → Cursor → (Cursor → Option α) → Option α
  | .one p, c, next =>
    match c.rest with
    | [] => none
    | ch :: rest => if p ch then next ⟨some ch, rest, c.place + 1, c.marks⟩ else none
  | .both p q, c, next => run p c fun c => run q c next
  | .either p q, c, next => attempt (run p c next) fun _ => run q c next
  | .repeated p least most eager, c, next =>
    runTimes (run p) (fun c => runUpTo (run p) eager next ((most.map (· - least)).getD c.rest.length) c) least c
  | .test p, c, next => if p c then next c else none
  | .marked p, c, next => run p c fun after => next (after.mark c.place)

/-- The stretches that matches mark, from the left to the right; so many characters more belong to the match before. -/
def stretchesFrom (p : Pattern) (covered : Nat) (before : Option Char) (place : Nat) : Text → List (Nat × Nat)
  | [] => []
  | c :: rest =>
    match covered with
    | more + 1 => stretchesFrom p more (some c) (place + 1) rest
    | 0 =>
      match p.run ⟨before, c :: rest, place, []⟩ some with
      | none => stretchesFrom p 0 (some c) (place + 1) rest
      | some after => after.marks ++ stretchesFrom p (after.place - (place + 1)) (some c) (place + 1) rest

/-- The stretches that the matches in a text mark. -/
def stretches (p : Pattern) (t : Text) : List (Nat × Nat) := p.stretchesFrom 0 none 0 t

/-- Takes nothing. -/
def nothing : Pattern := .test fun _ => true

def all (ps : List Pattern) : Pattern := ps.foldr .both nothing

/-- The first form that fits. -/
def anyOf : List Pattern → Pattern
  | [] => .test fun _ => false
  | [p] => p
  | p :: ps => .either p (anyOf ps)

def word (w : String) : Pattern := all (w.toList.map fun c => .one (· = c))

def optional (p : Pattern) : Pattern := .repeated p 0 (some 1) true

def many (p : Pattern) : Pattern := .repeated p 0 none true

def few (p : Pattern) : Pattern := .repeated p 0 none false

def times (p : Pattern) (least most : Nat) : Pattern := .repeated p least (some most) true

end Pattern

end DependencyAudit.Text
