import DependencyAudit.Console.Styled

namespace DependencyAudit.Console

/-- What to do with a word that is longer than a line: fold it over several lines, or shorten it to end in dots. -/
inductive Overflow where
  | fold
  | shorten
deriving DecidableEq

/-- The words of a text, each with the blanks after it, after a word under way in reverse order; the first one takes the
blanks before it too. -/
def wordsAfter (word : Text) (hasLetter hasEnded : Bool) : Text → List Text
  | [] => if hasLetter then [word.reverse] else []
  | c :: r =>
    if Text.isBlank c then wordsAfter (c :: word) hasLetter hasLetter r
    else if hasEnded then word.reverse :: wordsAfter [c] true false r
    else wordsAfter (c :: word) true false r

def wordsOf (t : Text) : List Text := wordsAfter [] false false t

/-- Where lines start, given the texts of the lines and where the first one starts; the start of the text is none. -/
def lineStarts (start : Nat) : List Text → List Nat
  | [] => []
  | line :: lines => (if start = 0 then [] else [start]) ++ lineStarts (start + line.length) lines

/-- Where a line has to be broken so that its parts fit a width, from a word on, with so many cells used before it.
Blanks after a word may stand beyond the width. -/
def breaks (width : Nat) (overflow : Overflow) (start used : Nat) : List Text → List Nat
  | [] => []
  | word :: words =>
    let needed := Text.cells (Text.trimRight word)
    let next := start + word.length
    if used + needed ≤ width then breaks width overflow next (used + Text.cells word) words
    else if width < needed then
      match overflow with
      | .fold =>
        let lines := Text.folded width word
        lineStarts start lines ++ breaks width overflow next ((lines.getLast?.map Text.cells).getD used) words
      | .shorten =>
        (if start = 0 then [] else [start]) ++ breaks width overflow next (Text.cells word) words
    else if used ≠ 0 ∧ start ≠ 0 then start :: breaks width overflow next (Text.cells word) words
    else breaks width overflow next used words

namespace Styled

/-- Takes away blanks at the end as far as there are more characters than cells. -/
def withoutExcess (width : Nat) (s : Styled) : Styled :=
  let excess := min (s.text.length - (Text.trimRight s.text).length) (s.text.length - width)
  if excess = 0 then s else s.upTo (s.text.length - excess)

def ellipsis : Char := '…'

/-- Shortens a text that is longer than a width. -/
def truncated (width : Nat) (overflow : Overflow) (s : Styled) : Styled :=
  if width < Text.cells s.text then
    match overflow with
    | .fold => s.retext (Text.fitted width s.text)
    | .shorten => s.retext (Text.fitted (width - 1) s.text ++ [ellipsis])
  else s

def filled (width : Nat) (s : Styled) : Styled := { s with text := s.text ++ Text.blanks (width - Text.cells s.text) }

/-- The lines that a text takes on a screen of a width. -/
def wrapped (width : Nat) (overflow : Overflow) (s : Styled) : List Styled :=
  s.lines.flatMap fun line =>
    let line := line.expandTabs
    (line.cutAt (breaks width overflow 0 0 (wordsOf line.text))).map fun part =>
      (part.withoutExcess width).truncated width overflow

end Styled

end DependencyAudit.Console
