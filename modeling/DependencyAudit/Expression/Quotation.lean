import DependencyAudit.Expression.Fault

namespace DependencyAudit.Expression

namespace Quotation

def isBytes (q : Quotation) : Bool := q.letters.contains 'b'

/-- Whether backslashes are as plain as other characters. -/
def isRaw (q : Quotation) : Bool := q.letters.contains 'r'

/-- Whether expressions fill places between braces. -/
def isFormatted (q : Quotation) : Bool := q.letters.contains 'f'

def isAscii (c : Char) : Bool := c.toNat < 128

/-- The bytes of a text in which all beyond ASCII is spelled out as an escape, and so is a backslash before it. -/
def width : Text → Nat
  | '\\' :: c :: rest => if isAscii c then 2 + width rest else 16 + width rest
  | c :: rest => (if isAscii c then 1 else 10) + width rest
  | [] => 0

/-- How many digits follow the letter of an escape that tells a character by its number. -/
def escapeDigits? : Char → Option Nat
  | 'x' => some 2
  | 'u' => some 4
  | 'U' => some 8
  | _ => none

/-- The fault of an escape that starts at a place, from its letter on. -/
def escapeFault? (place : Nat) (letter : Char) (rest : Text) : Option QuotationFault :=
  match escapeDigits? letter with
  | some count =>
    let found := (rest.take count).takeWhile fun c => (hexDigit? c).isSome
    if found.length < count then some (.escape (.short letter count) place (place + 1 + found.length))
    else if 0x10FFFF < Number.valueOf .hexadecimal (found.filterMap hexDigit?) then
      some (.escape .beyond place (place + 1 + count))
    else none
  | none =>
    if letter ≠ 'N' then none
    else
      match rest with
      | '\x7b' :: inner =>
        match Text.cutFirst '\x7d' inner with
        | none => some (.escape .unnamed place (place + 2 + width inner))
        | some ([], _) => some (.escape .unnamed place (place + 2))
        | some (name, _) => some (.escape .unknownName place (place + 3 + width name))
      | _ => some (.escape .unnamed place (place + 1))

/-- The first fault of the escapes in a text that starts at a place. -/
def escapesFault? (place : Nat) : Text → Option QuotationFault
  | '\\' :: c :: rest =>
    if isAscii c then
      match escapeFault? place c rest with
      | some f => some f
      | none => escapesFault? (place + 2) rest
    else escapesFault? (place + 16) rest
  | c :: rest => escapesFault? (place + if isAscii c then 1 else 10) rest
  | [] => none

/-- The first fault of the escapes in bytes, of which only those of two digits have any. -/
def byteEscapesFault? (place : Nat) : Text → Option QuotationFault
  | '\\' :: 'x' :: rest =>
    if 2 ≤ ((rest.take 2).takeWhile fun c => (hexDigit? c).isSome).length then byteEscapesFault? (place + 2) rest
    else some (.byteEscape place)
  | '\\' :: _ :: rest => byteEscapesFault? (place + 2) rest
  | _ :: rest => byteEscapesFault? (place + 1) rest
  | [] => none

/-- A plain part that a brace ends, whether the brace is doubled, and what follows. On the outer level a brace is
doubled to stand for itself. -/
def atBrace (outer : Bool) (c : Char) (rest : Text) : Except FieldFault (Text × Bool × Text) :=
  if outer ∧ rest.head? = some c then .ok ([c], true, rest.drop 1)
  else if outer ∧ c = '\x7d' then .error .singleBrace
  else .ok ([], false, c :: rest)

/-- The plain part that a text with places to fill starts with, whether a doubled brace ended it, and what follows. The
braces around the name of a character do not end it. -/
def plainPart (raw outer : Bool) : Text → Except FieldFault (Text × Bool × Text)
  | [] => .ok ([], false, [])
  | c :: rest =>
    let keep (front : Text) (r : Except FieldFault (Text × Bool × Text)) :=
      r.map fun (plain, doubled, rest) => (front ++ plain, doubled, rest)
    if c = '\\' ∧ !raw then
      match rest with
      | [] => .ok ([c], false, [])
      | 'N' :: '\x7b' :: more =>
        match h : Text.cutFirst '\x7d' more with
        | some (name, after) =>
          have := Text.cutFirst_length h
          keep ("\\N\x7b".toList ++ name ++ ['\x7d']) (plainPart raw outer after)
        | none => .ok (c :: rest, false, [])
      | 'N' :: d :: more => keep [c, 'N', d] (plainPart raw outer more)
      | d :: more =>
        if d = '\x7b' ∨ d = '\x7d' then keep [c] (atBrace outer d more)
        else keep [c, d] (plainPart raw outer more)
    else if c = '\x7b' ∨ c = '\x7d' then atBrace outer c rest
    else keep [c] (plainPart raw outer rest)
termination_by t => t.length

/-- Where the expression in a place has got to: the brackets that are open, the innermost first, and the mark of the
text it is in, with whether the mark is tripled. -/
structure PlaceState where
  opened : List Char
  inner : Option (Char × Bool)

/-- Whether two more of a mark follow it. -/
def isTripled (mark : Char) (rest : Text) : Bool := rest.take 2 = [mark, mark]

/-- What becomes of an expression in a place at a character, with how many characters after it are taken along; nothing
if the character ends the expression. -/
def placeStep (s : PlaceState) (c : Char) (rest : Text) : Except FieldFault (Option (Nat × PlaceState)) :=
  if c = '\\' then .error .backslash
  else
    match s.inner with
    | some (mark, tripled) =>
      if c ≠ mark ∨ (tripled ∧ !isTripled mark rest) then .ok (some (0, s))
      else .ok (some (if tripled then 2 else 0, { s with inner := none }))
    | none =>
      if c = '\'' ∨ c = '"' then
        let tripled := isTripled c rest
        .ok (some (if tripled then 2 else 0, { s with inner := some (c, tripled) }))
      else if c = '[' ∨ c = '\x7b' ∨ c = '(' then
        if maxBrackets ≤ s.opened.length then .error .nestedTooDeep
        else .ok (some (0, { s with opened := c :: s.opened }))
      else if c = '#' then .error .comment
      else if s.opened = [] ∧ (c = '!' ∨ c = '=' ∨ c = '<' ∨ c = '>') ∧ rest.head? = some '=' then .ok (some (1, s))
      else if s.opened = [] ∧ (c = '!' ∨ c = ':' ∨ c = '\x7d' ∨ c = '=') then .ok none
      else if c = ']' ∨ c = '\x7d' ∨ c = ')' then
        match s.opened with
        | [] => .error (.unmatched c)
        | b :: outer =>
          if (b = '(' ∧ c = ')') ∨ (b = '[' ∧ c = ']') ∨ (b = '\x7b' ∧ c = '\x7d') then
            .ok (some (0, { s with opened := outer }))
          else .error (.mismatched c b)
      else .ok (some (0, s))

/-- The expression that a place starts with, of which so many characters are taken without a look, and what follows
it. -/
def placeExpression (s : PlaceState) (taken : Nat) : Text → Except FieldFault (Text × Text)
  | [] =>
    match s.inner, s.opened with
    | some _, _ => .error .openText
    | none, c :: _ => .error (.unmatched c)
    | none, [] => .error .notClosed
  | c :: rest =>
    let keep (r : Except FieldFault (Text × Text)) := r.map fun (t, rest) => (c :: t, rest)
    match taken with
    | more + 1 => keep (placeExpression s more rest)
    | 0 =>
      match placeStep s c rest with
      | .error f => .error f
      | .ok none => .ok ([], c :: rest)
      | .ok (some (more, s)) => keep (placeExpression s more rest)

/-- Blanks that do not fill a place. -/
def isFiller (c : Char) : Bool := c = ' ' || c = '\t' || c = '\n' || c = '\x0c'

/-- What follows the expression in a place, without the sign that shows the expression itself. -/
def afterShown (rest : Text) : Text :=
  match rest with
  | '=' :: more => more.dropWhile fun c => isFiller c || c = '\x0b' || c = '\r'
  | _ => rest

/-- What follows the letter that chooses how a value is turned into text. -/
def afterConversion (rest : Text) : Except FieldFault Text :=
  match rest with
  | '!' :: c :: more =>
    if c = 's' ∨ c = 'r' ∨ c = 'a' then if more = [] then .error .notClosed else .ok more else .error .conversion
  | ['!'] | [] => .error .notClosed
  | _ => .ok rest

mutual

/-- Checks a text with places to fill, up to its end or, within a place, up to a closing brace; what follows is left.
The fuel bounds the steps, and expressions are checked with what follows them. -/
def checkParts (raw : Bool) (check : Text → Text → Except Fault Unit) : Nat → Nat → Text → Except Fault Text
  | 0, _, t => .ok t
  | fuel + 1, level, t =>
    match plainPart raw (level = 0) t with
    | .error f => .error (.quotation (.field f))
    | .ok (plain, doubled, rest) =>
      match if raw then none else escapesFault? 0 plain with
      | some f => .error (.quotation f)
      | none =>
        if doubled then checkParts raw check fuel level rest
        else
          match rest with
          | '\x7b' :: inner =>
            match checkPlace raw check fuel level inner with
            | .error f => .error f
            | .ok rest => checkParts raw check fuel level rest
          | [] => if level = 0 then .ok [] else .error (.quotation (.field .notClosed))
          | _ => .ok rest

/-- Checks a place after its opening brace; what follows its closing brace is left. -/
def checkPlace (raw : Bool) (check : Text → Text → Except Fault Unit) : Nat → Nat → Text → Except Fault Text
  | 0, _, t => .ok t
  | fuel + 1, level, t => do
    let field {α : Type} (r : Except FieldFault α) : Except Fault α := r.mapError fun f => .quotation (.field f)
    if 2 ≤ level then throw (.quotation (.field .fieldsTooDeep))
    let (expression, rest) ← field (placeExpression ⟨[], none⟩ 0 t)
    if expression.all isFiller then
      throw (.quotation (.field (match rest with
        | '\x7d' :: _ | [] => .empty
        | c :: _ => .emptyBefore c)))
    check expression rest
    let rest ← field (afterConversion (afterShown rest))
    let rest ← match rest with
      | [':'] => throw (.quotation (.field .notClosed))
      | ':' :: format => checkParts raw check fuel (level + 1) format
      | _ => pure rest
    match rest with
    | '\x7d' :: rest => return rest
    | _ => throw (.quotation (.field .notClosed))

end

/-- Checks a text on a line. An expression in it is checked with its line. -/
def check (q : Quotation) (line : Nat) (expression : Nat → Text → Except Fault Unit) : Except Fault Unit :=
  if q.isFormatted then
    let lineOf (inner rest : Text) : Nat := line + (q.body.count '\n' - inner.count '\n' - rest.count '\n')
    (checkParts q.isRaw (fun inner rest => expression (lineOf inner rest) inner) (2 * q.body.length + 2) 0 q.body).map
      fun _ => ()
  else if q.isBytes then
    if q.body.any (!isAscii ·) then .error (.quotation .notAscii)
    else if q.isRaw then .ok ()
    else ((byteEscapesFault? 0 q.body).elim (.ok ()) fun f => .error (.quotation f))
  else if q.isRaw then .ok ()
  else (escapesFault? 0 q.body).elim (.ok ()) fun f => .error (.quotation f)

end Quotation

/-- Texts side by side are one text, if they are all bytes or none is. -/
def joinQuotations (expression : Nat → Text → Except Fault Unit) (before : Option Bool) (formatted : Bool) :
    List (Quotation × Nat) → Except Fault Expr
  | [] => .ok (if formatted then .formatted else if before = some true then .bytes else .text)
  | (q, line) :: rest =>
    let plain := if q.isFormatted then .ok () else q.check line expression
    match plain with
    | .error f => .error f
    | .ok () =>
      if before.any (· != q.isBytes) then .error (.quotation .mixed)
      else
        match if q.isFormatted then q.check line expression else .ok () with
        | .error f => .error f
        | .ok () => joinQuotations expression (some q.isBytes) (formatted || q.isFormatted) rest

end DependencyAudit.Expression
