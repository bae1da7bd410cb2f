import DependencyAudit.Console.Layout
import DependencyAudit.Decimal.Double

namespace DependencyAudit.Console

/-- A titled table with a header row. -/
structure Table where
  title : Text
  header : List Styled
  rows : List (List Styled)

namespace Table

/-- The width of a field for a cell, a blank on each side included. Every line break counts here. -/
def cellWidth (cell : Styled) : Nat := ((Text.lines cell.text).map Text.cells).foldl max 0 + 2

/-- Every column is as wide as its widest cell, the header's included. -/
def naturalWidths (t : Table) : List Nat :=
  t.rows.foldl (fun ws row => List.zipWith max ws (row.map cellWidth)) (t.header.map cellWidth)

/-- Takes an amount from widths in equal shares as far as each may give; `givers` counts those that still do. -/
def reduced (amount : Nat) (givers : Nat) : List (Nat × Nat) → List Nat
  | [] => []
  | (width, limit) :: rest =>
    if limit = 0 then width :: reduced amount givers rest
    else
      let given := min limit (Decimal.roundDiv amount givers)
      (width - given) :: reduced (amount - given) (givers - 1) rest

def totalWidth (widths : List Nat) : Nat := widths.foldr (fun w n => w + n) 0

/-- Narrows the widest columns to the next ones, so many times, until all fit a limit. -/
def narrowed (limit : Nat) : Nat → List Nat → List Nat
  | 0, widths => widths
  | times + 1, widths =>
    let excess := totalWidth widths - limit
    if excess = 0 then widths
    else
      let widest := widths.foldl max 0
      let next := (widths.filter (· ≠ widest)).foldl max 0
      let givers := (widths.filter (· = widest)).length
      let step := min excess (widest - next)
      narrowed limit times (reduced excess givers (widths.map fun w => (w, if w = widest then step else 0)))

/-- The widths of the columns on a screen; an edge stands beside each of them. -/
def widths (screen : Nat) (t : Table) : List Nat :=
  let limit := screen - (t.header.length + 1)
  let narrow := narrowed limit (t.header.length + 1) t.naturalWidths
  List.zipWith min t.naturalWidths narrow

/-- The characters of a line between rows. -/
structure Rule where
  left : Char
  fill : Char
  joint : Char
  right : Char

def Rule.line (r : Rule) (widths : List Nat) : Text :=
  r.left :: [r.joint].intercalate (widths.map fun w => List.replicate w r.fill) ++ [r.right]

/-- The lines of a cell in a column: words that are too long are shortened, and blanks fill every line. -/
def cellLines (width : Nat) (cell : Styled) : List Styled :=
  (cell.wrapped (width - 2) .shorten).map (·.filled (width - 2))

/-- The lines of a row, as many as its highest cell has. -/
def rowLines (edge : Char) (widths : List Nat) (row : List Styled) : List Text :=
  let cells := List.zipWith (fun w cell => (cellLines w cell).map fun line => inField w line.pieces) widths row
  let height := (cells.map List.length).foldl max 0
  (List.range height).map fun i =>
    edge :: (List.zipWith (fun w cell => cell.getD i (Text.blanks w) ++ [edge]) widths cells).flatten

/-- The first fault in the styles that a table shows, row by row. -/
def fault? (widths : List Nat) (t : Table) : Option Colour.NumberFault :=
  t.rows.findSome? fun row =>
    (List.zipWith cellLines widths row).findSome? fun lines => lines.findSome? (·.fault?)

/-- The lines of a table on a screen of a width. -/
def lines (screen : Nat) (t : Table) : Except Colour.NumberFault (List Text) :=
  let ws := t.widths screen
  match t.fault? ws with
  | some f => .error f
  | none => .ok <|
    [centred ' ' (totalWidth ws + ws.length + 1) t.title] ++
      [Rule.line ⟨'┏', '━', '┳', '┓'⟩ ws] ++ rowLines '┃' ws t.header ++ [Rule.line ⟨'┡', '━', '╇', '┩'⟩ ws] ++
      t.rows.flatMap (rowLines '│' ws) ++ [Rule.line ⟨'└', '─', '┴', '┘'⟩ ws]

end Table

end DependencyAudit.Console
