import DependencyAudit.Text.Basic

namespace DependencyAudit.Text

/-- The characters that end a line of a compromised-version list. -/
def isLineBreak (c : Char) : Bool :=
  let n := c.toNat
  (10 ≤ n && n ≤ 13) || (28 ≤ n && n ≤ 30) || n == 0x85 || n == 0x2028 || n == 0x2029

/-- The lines of a list: every line break ends a line, a carriage return with its line feed counts once,
and a break at the very end opens no further line. -/
def lines : Text → List Text
  | [] => []
  | '\r' :: '\n' :: r => [] :: lines r
  | c :: r => if isLineBreak c then [] :: lines r else pushFirst c (lines r)

/-- The rows of a lockfile: only a line feed ends a row, together with one carriage return before it. -/
def rows : Text → List Text
  | [] => [[]]
  | '\r' :: '\n' :: r => [] :: rows r
  | c :: r => if c = '\n' then [] :: rows r else pushFirst c (rows r)

/-- Every carriage return, with the line feed after it if there is one, becomes one line feed. -/
def unifyBreaks : Text → Text
  | [] => []
  | '\r' :: '\n' :: r => '\n' :: unifyBreaks r
  | c :: r => (if c = '\r' then '\n' else c) :: unifyBreaks r

end DependencyAudit.Text
