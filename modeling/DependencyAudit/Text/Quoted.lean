import DependencyAudit.Text.CodePoint
import DependencyAudit.Text.Printable

namespace DependencyAudit

namespace Text

/-- A character inside a quoted text. -/
def quotedChar (mark c : Char) : Text :=
  if c = mark ∨ c = '\\' then ['\\', c]
  else if c = '\n' then ['\\', 'n']
  else if c = '\r' then ['\\', 'r']
  else if c = '\t' then ['\\', 't']
  else if isPrintable c then [c]
  else if c.toNat < 0x100 then ['\\', 'x'] ++ hexPadded 2 c.toNat
  else if c.toNat < 0x10000 then ['\\', 'u'] ++ hexPadded 4 c.toNat
  else ['\\', 'U'] ++ hexPadded 8 c.toNat

end Text

namespace Name

/-- The quotation mark is single unless the string holds single quotation marks and no double ones. -/
def quoteMark (n : Name) : Char :=
  if n.contains (.scalar '\'') && !n.contains (.scalar '"') then '"' else '\''

/-- A string in quotation marks, with everything that would not show spelled out. -/
def quoted (n : Name) : Text :=
  let mark := quoteMark n
  let shown (p : CodePoint) : Text :=
    match p with
    | .scalar c => Text.quotedChar mark c
    | .lone _ => p.spelled
  mark :: n.flatMap shown ++ [mark]

end Name

def Text.quoted (t : Text) : Text := Name.quoted t

end DependencyAudit
