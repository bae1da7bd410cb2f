import DependencyAudit.Expression.Number
import DependencyAudit.Text.Printable
import DependencyAudit.Text.Word

namespace DependencyAudit.Expression

/-- A text in quotation marks as it is written: the letters in front of it, whether the marks are tripled, and what is
between them. -/
structure Quotation where
  letters : Text
  tripled : Bool
  body : Text
deriving DecidableEq

/-- What a text of an expression consists of. A sign that has no meaning is stray. -/
inductive Lexeme where
  | name (t : Text)
  | keyword (t : Text)
  | number (n : Number)
  | quotation (q : Quotation)
  | sign (t : Text)
  | stray
  | lineEnd
  | indent
  | dedent
  | finish
deriving DecidableEq

/-- Whether the character after a lexeme has been looked at to see that the lexeme ends. Quotations and the longest
signs show it themselves. -/
def Lexeme.looksOn : Lexeme → Bool
  | .quotation _ => false
  | .sign t => t.length < 3
  | _ => true

/-- A lexeme with its line, and the number of brackets that are open after it. -/
structure Token where
  lexeme : Lexeme
  line : Nat
  depth : Nat
deriving DecidableEq

/-- Why no lexeme can be read. -/
inductive ScanFault where
  | character (c : Char)
  | number (f : NumberFault)
  | notClosed (opening : Char)
  | unmatched (closing : Char)
  | mismatched (closing opening : Char) (line : Option Nat)
  | nestedTooDeep
  | unterminated (tripled : Bool) (line : Nat)
  | afterBackslash
  | unexpectedEnd
  | unevenDedent
  | mixedIndent
  | indentedTooDeep
deriving DecidableEq

namespace ScanFault

def message : ScanFault → Text
  | .character c =>
    let number := (Text.hexPadded 4 c.toNat).map Char.toUpper
    if Text.isPrintable c then "invalid character '".toList ++ [c] ++ "' (U+".toList ++ number ++ [')']
    else "invalid non-printable character U+".toList ++ number
  | .number f => f.message
  | .notClosed opening => '\'' :: opening :: "' was never closed".toList
  | .unmatched closing => "unmatched '".toList ++ [closing, '\'']
  | .mismatched closing opening line =>
    "closing parenthesis '".toList ++ [closing] ++ "' does not match opening parenthesis '".toList ++ [opening, '\''] ++
      ((line.map fun n => " on line ".toList ++ Text.decimal n).getD [])
  | .nestedTooDeep => "too many nested parentheses".toList
  | .unterminated tripled line =>
    (if tripled then "unterminated triple-quoted string literal (detected at line ".toList
     else "unterminated string literal (detected at line ".toList) ++ Text.decimal line ++ [')']
  | .afterBackslash => "unexpected character after line continuation character".toList
  | .unexpectedEnd => "unexpected EOF while parsing".toList
  | .unevenDedent => "unindent does not match any outer indentation level".toList
  | .mixedIndent => "inconsistent use of tabs and spaces in indentation".toList
  | .indentedTooDeep => "too many levels of indentation".toList

/-- Whether the fault is in the text where it is found. The other ones depend on how the text goes on, or on where its
lines start. -/
def isLocal : ScanFault → Bool
  | .character _ | .number _ | .unmatched _ | .mismatched _ _ _ | .nestedTooDeep | .unterminated _ _ => true
  | _ => false

end ScanFault

/-- A bracket that is open, and its line. -/
structure Bracket where
  opening : Char
  line : Nat
deriving DecidableEq

/-- A fault where scanning stops, the brackets that are open there, the innermost first, and whether the lexeme before
has been read up to the end of the text. -/
structure Halt where
  fault : ScanFault
  brackets : List Bracket
  ranOut : Bool
deriving DecidableEq

/-- Brackets may be nested so deep. -/
def maxBrackets : Nat := 200

/-- Lines may be indented so often. -/
def maxMargins : Nat := 100

def keywords : List String := ["False", "None", "True", "and", "as", "assert", "async", "await", "break", "class",
  "continue", "def", "del", "elif", "else", "except", "finally", "for", "from", "global", "if", "import", "in", "is",
  "lambda", "nonlocal", "not", "or", "pass", "raise", "return", "try", "while", "with", "yield"]

/-- The signs of more than one character, the longest first. -/
def longSigns : List String := ["**=", "//=", "<<=", ">>=", "...", "!=", "%=", "&=", "**", "*=", "+=", "-=", "->",
  "//", "/=", ":=", "<<", "<=", "<>", "==", ">=", ">>", "@=", "^=", "|="]

def isSign (c : Char) : Bool := "%&()*+,-./:;<=>@[]^{|}~".toList.contains c

/-- The letters that may stand in front of a quotation mark. -/
def isQuoteLetters (t : Text) : Bool :=
  ["", "b", "r", "u", "f", "br", "rb", "fr", "rf"].any fun w => w.toList = t.map Char.toLower

def startsRun (c : Char) : Bool := c.isAlpha || c = '_' || 128 ≤ c.toNat

/-- The first character of a name that may not stand where it does. -/
def misplaced? : Text → Option Char
  | [] => none
  | c :: rest =>
    if c = '_' ∨ Text.startsName c then rest.find? fun c => !Text.continuesName c else some c

/-- Every line break as a line feed. -/
def unifyLines : Text → Text
  | '\r' :: '\n' :: rest => '\n' :: unifyLines rest
  | '\r' :: rest => '\n' :: unifyLines rest
  | c :: rest => c :: unifyLines rest
  | [] => []

/-- What stands before a closing quotation mark on the same line, and what follows the mark. A backslash keeps the
character after it from closing or breaking the line. -/
def closeQuote (mark : Char) : Text → Option (Text × Text)
  | '\\' :: c :: rest => (closeQuote mark rest).map fun (body, rest) => ('\\' :: c :: body, rest)
  | c :: rest =>
    if c = mark then some ([], rest)
    else if c = '\n' then none
    else (closeQuote mark rest).map fun (body, rest) => (c :: body, rest)
  | [] => none

/-- What stands before three closing quotation marks, and what follows them. -/
def closeTripled (mark : Char) : Text → Option (Text × Text)
  | '\\' :: c :: rest => (closeTripled mark rest).map fun (body, rest) => ('\\' :: c :: body, rest)
  | c :: rest =>
    match Text.afterWord [mark, mark, mark] (c :: rest) with
    | some rest => some ([], rest)
    | none => (closeTripled mark rest).map fun (body, rest) => (c :: body, rest)
  | [] => none

/-- The line breaks that a quotation passes before it turns out to be open. -/
def breaksPassed (tripled : Bool) : Text → Nat
  | '\\' :: '\n' :: rest => (if rest = [] then 0 else 1) + breaksPassed tripled rest
  | '\\' :: _ :: rest => breaksPassed tripled rest
  | '\n' :: rest => if tripled && rest ≠ [] then 1 + breaksPassed tripled rest else 0
  | _ :: rest => breaksPassed tripled rest
  | [] => 0

/-- A quotation from its first mark on, and what follows. -/
def quotation (letters : Text) (line : Nat) (mark : Char) (rest : Text) : Except ScanFault (Quotation × Text) :=
  match Text.afterWord [mark, mark] rest with
  | some inner =>
    match closeTripled mark inner with
    | some (body, rest) => .ok (⟨letters, true, body⟩, rest)
    | none => .error (.unterminated true (line + breaksPassed true inner))
  | none =>
    match closeQuote mark rest with
    | some (body, rest) => .ok (⟨letters, false, body⟩, rest)
    | none => .error (.unterminated false (line + breaksPassed false rest))

/-- The indent of a line, with tabs that go on to the next column divisible by eight and with tabs as single blanks. -/
structure Margin where
  wide : Nat
  narrow : Nat
deriving DecidableEq

/-- What stands in front of a line: its margin, the line breaks that backslashes pass, and what follows. The margin of
the line before the first backslash counts, unless it is nothing. -/
def margin (kept : Nat) (m : Margin) (breaks : Nat) : Text → Except ScanFault (Margin × Nat × Text)
  | ' ' :: rest => margin kept ⟨m.wide + 1, m.narrow + 1⟩ breaks rest
  | '\t' :: rest => margin kept ⟨(m.wide / 8 + 1) * 8, m.narrow + 1⟩ breaks rest
  | '\x0c' :: rest => margin kept ⟨0, 0⟩ breaks rest
  | '\\' :: '\n' :: [] => .error .unexpectedEnd
  | '\\' :: '\n' :: rest => margin (if kept = 0 then m.wide else kept) m (breaks + 1) rest
  | '\\' :: _ => .error .afterBackslash
  | rest => .ok (if kept = 0 then m else ⟨kept, kept⟩, breaks, rest)

/-- The margins that are open after a line with a margin, the innermost first, and the lexemes that tell of it. -/
def indentation (m : Margin) : List Margin → Except ScanFault (List Margin × List Lexeme)
  | [] => .error .unevenDedent
  | top :: outer =>
    if m.wide = top.wide then
      if m.narrow = top.narrow then .ok (top :: outer, []) else .error .mixedIndent
    else if top.wide < m.wide then
      if maxMargins ≤ outer.length + 1 then .error .indentedTooDeep
      else if m.narrow ≤ top.narrow then .error .mixedIndent
      else .ok (m :: top :: outer, [.indent])
    else
      match outer with
      | [] => .error .unevenDedent
      | next :: _ =>
        if next.wide < m.wide then .error .unevenDedent
        else (indentation m outer).map fun (margins, ls) => (margins, .dedent :: ls)

/-- A scan under way: what is left, its line, the brackets and margins that are open, whether a line starts here, and
whether the last lexeme has been read up to the end of the text. -/
structure Scan where
  rest : Text
  line : Nat
  brackets : List Bracket
  margins : List Margin
  atStart : Bool
  ranOut : Bool

namespace Scan

/-- A text that ends too early is blamed on the innermost open bracket. -/
def halt (s : Scan) (f : ScanFault) : Halt :=
  match f, s.brackets with
  | .unexpectedEnd, b :: _ => ⟨.notClosed b.opening, s.brackets, s.ranOut⟩
  | _, _ => ⟨f, s.brackets, s.ranOut⟩

def token (s : Scan) (l : Lexeme) : Token := ⟨l, s.line, s.brackets.length⟩

/-- A name or a keyword. -/
def word (t : Text) : Except ScanFault Lexeme :=
  match misplaced? t with
  | some c => .error (.character c)
  | none => .ok (if keywords.any (·.toList = t) then .keyword t else .name t)

/-- The lexeme that letters start: a quotation if a quotation mark follows that may have them in front. -/
def run (s : Scan) : Except ScanFault (Lexeme × Text) :=
  let letters := s.rest.takeWhile Number.runsOn
  match s.rest.drop letters.length with
  | [] => (word letters).map (·, [])
  | c :: rest =>
    if (c = '\'' ∨ c = '"') ∧ isQuoteLetters letters then
      (quotation (letters.map Char.toLower) s.line c rest).map fun (q, rest) => (.quotation q, rest)
    else (word letters).map (·, c :: rest)

/-- The brackets that are open after a sign. -/
def bracketsAfter (s : Scan) (c : Char) : Except ScanFault (List Bracket) :=
  if c = '(' ∨ c = '[' ∨ c = '{' then
    if maxBrackets ≤ s.brackets.length then .error .nestedTooDeep else .ok (⟨c, s.line⟩ :: s.brackets)
  else if c = ')' ∨ c = ']' ∨ c = '}' then
    match s.brackets with
    | [] => .error (.unmatched c)
    | b :: outer =>
      if (b.opening = '(' ∧ c = ')') ∨ (b.opening = '[' ∧ c = ']') ∨ (b.opening = '{' ∧ c = '}') then .ok outer
      else .error (.mismatched c b.opening (if b.line = s.line then none else some b.line))
  else .ok s.brackets

/-- The longest sign that a text starts with, of those with more than one character. -/
def longSign? (t : Text) : Option (Text × Text) :=
  longSigns.findSome? fun w => (Text.afterWord w.toList t).map (w.toList, ·)

/-- The lexeme that starts with a character, and what is left after it with the brackets that are open then. -/
def lexeme (s : Scan) (c : Char) (rest : Text) : Except ScanFault (Lexeme × Scan) :=
  let after : Lexeme × Text → Lexeme × Scan
    | (.quotation q, rest) => (.quotation q, { s with rest := rest, line := s.line + q.body.count '\n' })
    | (l, rest) => (l, { s with rest := rest })
  if startsRun c then s.run.map after
  else if c = '\'' ∨ c = '"' then (quotation [] s.line c rest).map fun (q, rest) => after (.quotation q, rest)
  else if Number.isDigit c ∨ (c = '.' ∧ rest.head?.any Number.isDigit) then
    ((Number.read s.rest).mapError .number).map fun (n, rest) => after (.number n, rest)
  else
    match longSign? s.rest with
    | some (w, rest) => .ok (after (.sign w, rest))
    | none =>
      (s.bracketsAfter c).bind fun brackets =>
        if Text.isPrintable c then
          .ok (if isSign c then .sign [c] else .stray, { s with rest := rest, brackets := brackets })
        else .error (.character c)

/-- What a step of a scan yields: the end of the text, a fault, or lexemes and the scan after them. -/
inductive Step where
  | finished
  | halted (f : ScanFault)
  | further (ls : List Lexeme) (s : Scan)

/-- The step over a line break, before which a comment may have stood. -/
def endLine (s : Scan) (ls : List Lexeme) : Step :=
  match s.rest with
  | [] => .further [] s
  | _ :: rest => .further ls { s with rest := rest, line := s.line + 1, atStart := true }

/-- The step into a line. A line without lexemes has no margin, and neither has one in brackets. -/
def startLine (s : Scan) : Step :=
  match margin 0 ⟨0, 0⟩ 0 s.rest with
  | .error f => .halted f
  | .ok (m, breaks, rest) =>
    let s := { s with rest := rest, line := s.line + breaks, atStart := false }
    if rest.head? = some '#' ∨ rest.head? = some '\n' then
      { s with rest := rest.dropWhile (· ≠ '\n') }.endLine []
    else if s.brackets ≠ [] then .further [] s
    else
      match indentation m s.margins with
      | .error f => .halted f
      | .ok (margins, ls) => .further ls { s with margins := margins }

/-- The step within a line. -/
def goOn (s : Scan) : Step :=
  match s.rest.dropWhile fun c => c = ' ' || c = '\t' || c = '\x0c' with
  | [] => if s.brackets = [] then .finished else .halted .unexpectedEnd
  | '\n' :: rest => { s with rest := '\n' :: rest }.endLine (if s.brackets = [] then [.lineEnd] else [])
  | '#' :: rest => .further [] { s with rest := rest.dropWhile (· ≠ '\n') }
  | '\\' :: '\n' :: [] => .halted .unexpectedEnd
  | '\\' :: '\n' :: rest => .further [] { s with rest := rest, line := s.line + 1 }
  | '\\' :: _ => .halted .afterBackslash
  | c :: rest =>
    match { s with rest := c :: rest }.lexeme c rest with
    | .error f => .halted f
    | .ok (l, s) => .further [l] { s with ranOut := s.rest = [] && l.looksOn }

end Scan

/-- The tokens of a text as far as they can be read, and the fault that ends them. -/
structure Scanned where
  tokens : List Token
  halt : Option Halt

namespace Scanned

/-- The tokens of what a scan has left, in so many steps at most. A quotation has the line on which it starts. -/
def ofScan : Nat → Scan → Scanned
  | 0, s => ⟨[s.token .finish], none⟩
  | steps + 1, s =>
    match if s.atStart then s.startLine else s.goOn with
    | .finished => ⟨[s.token .finish], none⟩
    | .halted f => ⟨[], some (s.halt f)⟩
    | .further ls after =>
      let line := match ls with
        | [.quotation _] | [.lineEnd] => s.line
        | _ => after.line
      let tokens := ls.map fun l => { after.token l with line := line }
      let rest := ofScan steps after
      ⟨tokens ++ rest.tokens, rest.halt⟩

/-- The tokens of a text whose first line has a number. Each character takes a step at most, and so does the start of
each line. -/
def ofText (line : Nat) (t : Text) : Scanned :=
  let t := unifyLines t
  ofScan (2 * t.length + 2) ⟨t, line, [], [⟨0, 0⟩], true, false⟩

end Scanned

end DependencyAudit.Expression
