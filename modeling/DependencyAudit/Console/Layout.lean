import DependencyAudit.Console.Highlight
import DependencyAudit.Console.Markup
import DependencyAudit.Console.Wrapping
import DependencyAudit.Text.Lines

namespace DependencyAudit.Console

/-- The pieces of a line that is longer than a width, up to it. -/
def cropped (width : Nat) : List Text → List Text
  | [] => []
  | t :: ts => if Text.cells t < width then t :: cropped (width - Text.cells t) ts else [Text.fitted width t]

/-- The cells of the pieces of a line, each measured on its own. -/
def piecesCells (line : List Text) : Nat := line.foldr (fun t n => Text.cells t + n) 0

/-- A line as a screen of a width shows it. -/
def shownLine (width : Nat) (line : Styled) : Text :=
  if width < piecesCells line.pieces then (cropped width line.pieces).flatten else line.text

/-- The lines of a text on a screen of a width; a screen without cells shows nothing. -/
def printed (width : Nat) (s : Styled) : List Text :=
  if width = 0 then [] else (s.wrapped width .fold).map (shownLine width)

/-- The lines of markup on a screen of a width, with the stretches that the screen sets off by itself. Styles are read
when the lines are. -/
def printedMarkup (width : Nat) (t : Text) : Except Markup.Fault (List Text) :=
  match Markup.render t with
  | .error f => .error f
  | .ok s =>
    let s : Styled := ⟨s.text, Highlight.marks s.text ++ s.marks⟩
    match (s.wrapped width .fold).findSome? (·.fault?) with
    | some f => .error (.number f)
    | none => .ok (printed width s)

/-- A text in the middle of a width; of an odd excess the right side takes more. -/
def centred (filler : Char) (width : Nat) (t : Text) : Text :=
  let shown := if width < Text.cells t then Text.fitted width t else t
  let excess := width - Text.cells shown
  List.replicate (excess / 2) filler ++ shown ++ List.replicate (excess - excess / 2) filler

/-- The pieces of a line brought to a width. -/
def shaped (width : Nat) (line : List Text) : List Text :=
  if piecesCells line < width then line ++ [Text.blanks (width - piecesCells line)]
  else if width < piecesCells line then cropped width line
  else line

/-- The pieces of a line in a field of a width, with a blank on each side. -/
def inField (width : Nat) (line : List Text) : Text :=
  (shaped width ([' '] :: shaped (width - 2) line ++ [[' ']])).flatten

/-- A frame that is no wider has no room for anything. -/
def emptyPanelWidth : Nat := 4

/-- An edge of a frame between its corners. On a single cell only the left corner is left. -/
def panelEdge (width : Nat) (left : Char) (middle : Text) (right : Char) : Text :=
  if width < 2 then [left] else left :: middle ++ [right]

/-- A frame of a width around a text, with a title set into its upper edge. -/
def panel (width : Nat) (title : Option Text) (content : Styled) : List Text :=
  let isEmpty : Bool := width ≤ emptyPanelWidth
  let plain := List.replicate (width - 2) '─'
  let top := match title with
    | some t => if isEmpty then plain else '─' :: centred '─' (width - 4) (' ' :: t ++ [' ']) ++ ['─']
    | none => plain
  let body := if isEmpty then [] else content.wrapped (width - 4) .fold
  if width = 0 then []
  else
    [panelEdge width '╭' top '╮'] ++ body.map (fun line => '│' :: inField (width - 2) line.pieces ++ ['│']) ++
      [panelEdge width '╰' plain '╯']

/-- The width of the narrowest frame around a text. -/
def fittingWidth (content : Text) : Nat := ((Text.lines content).map Text.cells).foldl max 0 + 4

end DependencyAudit.Console
