import DependencyAudit.Console.Style
import DependencyAudit.Text.Cells

namespace DependencyAudit.Console

/-- Bell, backspace, vertical tab, form feed and carriage return never reach the screen. -/
def isDropped (c : Char) : Bool := c = '\x07' || c = '\x08' || c = '\x0b' || c = '\x0c' || c = '\x0d'

/-- A stretch of a text that is shown in a style, given by the words of the style. -/
structure Mark where
  start : Nat
  stop : Nat
  style : Text

/-- A text with its stretches of a style. -/
structure Styled where
  text : Text
  marks : List Mark

def Mark.shift (m : Mark) (n : Nat) : Mark := { m with start := m.start + n, stop := m.stop + n }

/-- A mark on what is left of a text; a mark beyond its end is lost. -/
def Mark.upTo? (m : Mark) (length : Nat) : Option Mark :=
  if m.start < length then some { m with stop := min m.stop length } else none

/-- A mark as the part of a text between two places has it. -/
def Mark.within? (m : Mark) (start stop : Nat) : Option Mark :=
  let low := max m.start start
  let high := min m.stop stop
  if low < high then some ⟨low - start, high - start, m.style⟩ else none

namespace Styled

def ofText (t : Text) : Styled := ⟨t.filter (!isDropped ·), []⟩

/-- A text behind another one, in a style of its own if it is given one. -/
def append (s : Styled) (t : Text) (style : Option Text) : Styled :=
  let shown := t.filter (!isDropped ·)
  let mark := if shown = [] then [] else style.toList.map fun w => ⟨s.text.length, s.text.length + shown.length, w⟩
  ⟨s.text ++ shown, s.marks ++ mark⟩

def join : List Styled → Styled
  | [] => ⟨[], []⟩
  | s :: ss => ⟨s.text ++ (join ss).text, s.marks ++ (join ss).marks.map (·.shift s.text.length)⟩

def part (s : Styled) (start stop : Nat) : Styled :=
  ⟨(s.text.drop start).take (stop - start), s.marks.filterMap (·.within? start stop)⟩

/-- The parts between places in rising order. A text that is not cut keeps its marks, those without length too. -/
def cutAt (s : Styled) : List Nat → List Styled
  | [] => [s]
  | places => List.zipWith s.part (0 :: places) (places ++ [s.text.length])

/-- The places of a character. -/
def placesOf (c : Char) (t : Text) : List Nat := (t.zipIdx.filter (·.1 = c)).map (·.2)

/-- The lines of a text. -/
def lines (s : Styled) : List Styled :=
  match placesOf '\n' s.text with
  | [] => [s]
  | breaks => List.zipWith s.part (0 :: breaks.map (· + 1)) (breaks ++ [s.text.length])

/-- A text without what stands behind a length. -/
def upTo (s : Styled) (length : Nat) : Styled := ⟨s.text.take length, s.marks.filterMap (·.upTo? length)⟩

/-- Another text under the same marks. -/
def retext (s : Styled) (t : Text) : Styled :=
  if t.length < s.text.length then ⟨t, s.marks.filterMap (·.upTo? t.length)⟩ else ⟨t, s.marks⟩

def tabWidth : Nat := 8

/-- A part that ends in a tab, with blanks in its place, one at least, up to the next tab stop. A mark that reaches the
tab reaches them all. -/
def upToStop (s : Styled) : Styled :=
  let blanked := s.text.dropLast ++ [' ']
  let more := (tabWidth - Text.cells blanked % tabWidth) % tabWidth
  let stretch (m : Mark) : Mark := if s.text.length ≤ m.stop then { m with stop := m.stop + more } else m
  ⟨blanked ++ Text.blanks more, s.marks.map stretch⟩

/-- A line with blanks for its tabs. -/
def expandTabs (s : Styled) : Styled :=
  if s.text.contains '\t' then
    let parts := s.cutAt ((placesOf '\t' s.text).map (· + 1))
    let parts := if s.text.getLast? = some '\t' then parts.dropLast else parts
    join (parts.map fun p => if p.text.getLast? = some '\t' then p.upToStop else p)
  else s

/-- The slices of a text between places in rising order, without those that are empty. -/
def slices (from_ : Nat) (t : Text) : List Nat → List Text
  | [] => if t = [] then [] else [t]
  | place :: places =>
    if place ≤ from_ then slices from_ t places
    else if t.length ≤ place - from_ then slices from_ t []
    else t.take (place - from_) :: slices place (t.drop (place - from_)) places

/-- The pieces that a text is sent to the screen in: it is cut wherever a mark starts or stops. -/
def pieces (s : Styled) : List Text :=
  slices 0 s.text ((s.marks.flatMap fun m => [m.start, m.stop]).mergeSort (decide <| · ≤ ·))

/-- The first fault in the styles of a text. -/
def fault? (s : Styled) : Option Colour.NumberFault := s.marks.findSome? (Style.fault? ·.style)

end Styled

end DependencyAudit.Console
