import DependencyAudit.Text.Case
import DependencyAudit.Text.Digits

namespace DependencyAudit

/-- What a style turns on or off. -/
inductive Attribute where
  | bold
  | dim
  | italic
  | underline
  | blink
  | fastBlink
  | reverse
  | conceal
  | strike
  | doubleUnderline
  | frame
  | encircle
  | overline
deriving DecidableEq

namespace Attribute

/-- All attributes, in the order in which a style lists them. -/
def all : List Attribute := [.bold, .dim, .italic, .underline, .blink, .fastBlink, .reverse, .conceal, .strike,
  .doubleUnderline, .frame, .encircle, .overline]

def name : Attribute → Text
  | .bold => "bold".toList
  | .dim => "dim".toList
  | .italic => "italic".toList
  | .underline => "underline".toList
  | .blink => "blink".toList
  | .fastBlink => "blink2".toList
  | .reverse => "reverse".toList
  | .conceal => "conceal".toList
  | .strike => "strike".toList
  | .doubleUnderline => "underline2".toList
  | .frame => "frame".toList
  | .encircle => "encircle".toList
  | .overline => "overline".toList

/-- The shorter spelling of some attributes. -/
def short? : Attribute → Option Text
  | .bold => some ['b']
  | .dim => some ['d']
  | .italic => some ['i']
  | .underline => some ['u']
  | .reverse => some ['r']
  | .conceal => some ['c']
  | .strike => some ['s']
  | .doubleUnderline => some ['u', 'u']
  | .overline => some ['o']
  | .blink | .fastBlink | .frame | .encircle => none

def ofWord? (w : Text) : Option Attribute := all.find? fun a => a.name = w || a.short? = some w

end Attribute

namespace Colour

/-- Colours that have a name of their own. -/
def listing : String :=
"aquamarine1 aquamarine3 black blue blue1 blue3 blue_violet bright_black bright_blue bright_cyan bright_green
bright_magenta bright_red bright_white bright_yellow cadet_blue chartreuse1 chartreuse2 chartreuse3 chartreuse4
cornflower_blue cornsilk1 cyan cyan1 cyan2 cyan3 dark_blue dark_cyan dark_goldenrod dark_green dark_khaki
dark_magenta dark_olive_green1 dark_olive_green2 dark_olive_green3 dark_orange dark_orange3 dark_red dark_sea_green
dark_sea_green1 dark_sea_green2 dark_sea_green3 dark_sea_green4 dark_slate_gray1 dark_slate_gray2 dark_slate_gray3
dark_turquoise dark_violet deep_pink1 deep_pink2 deep_pink3 deep_pink4 deep_sky_blue1 deep_sky_blue2 deep_sky_blue3
deep_sky_blue4 dodger_blue1 dodger_blue2 dodger_blue3 gold1 gold3 gray0 gray100 gray11 gray15 gray19 gray23 gray27
gray3 gray30 gray35 gray37 gray39 gray42 gray46 gray50 gray53 gray54 gray58 gray62 gray63 gray66 gray69 gray7 gray70
gray74 gray78 gray82 gray84 gray85 gray89 gray93 green green1 green3 green4 green_yellow grey0 grey100 grey11 grey15
grey19 grey23 grey27 grey3 grey30 grey35 grey37 grey39 grey42 grey46 grey50 grey53 grey54 grey58 grey62 grey63
grey66 grey69 grey7 grey70 grey74 grey78 grey82 grey84 grey85 grey89 grey93 honeydew2 hot_pink hot_pink2 hot_pink3
indian_red indian_red1 khaki1 khaki3 light_coral light_cyan1 light_cyan3 light_goldenrod1 light_goldenrod2
light_goldenrod3 light_green light_pink1 light_pink3 light_pink4 light_salmon1 light_salmon3 light_sea_green
light_sky_blue1 light_sky_blue3 light_slate_blue light_slate_gray light_slate_grey light_steel_blue
light_steel_blue1 light_steel_blue3 light_yellow3 magenta magenta1 magenta2 magenta3 medium_orchid medium_orchid1
medium_orchid3 medium_purple medium_purple1 medium_purple2 medium_purple3 medium_purple4 medium_spring_green
medium_turquoise medium_violet_red misty_rose1 misty_rose3 navajo_white1 navajo_white3 navy_blue orange1 orange3
orange4 orange_red1 orchid orchid1 orchid2 pale_green1 pale_green3 pale_turquoise1 pale_turquoise4 pale_violet_red1
pink1 pink3 plum1 plum2 plum3 plum4 purple purple3 purple4 red red1 red3 rosy_brown royal_blue1 salmon1 sandy_brown
sea_green1 sea_green2 sea_green3 sky_blue1 sky_blue2 sky_blue3 slate_blue1 slate_blue3 spring_green1 spring_green2
spring_green3 spring_green4 steel_blue steel_blue1 steel_blue3 tan thistle1 thistle3 turquoise2 turquoise4 violet
wheat1 wheat4 white yellow yellow1 yellow2 yellow3 yellow4"

def names : List Text := Text.words listing.toList

def isDigit (c : Char) : Bool := '0' ≤ c && c ≤ '9'

def isHexDigit (c : Char) : Bool := isDigit c || ('a' ≤ c && c ≤ 'f')

/-- Why a part of a colour is no number: it has no digits, or too many. -/
inductive NumberFault where
  | empty
  | tooLong (digits : Nat)
deriving DecidableEq

def maxDigits : Nat := 4300

def NumberFault.message : NumberFault → Text
  | .empty => "invalid literal for int() with base 10: ''".toList
  | .tooLong digits => "Exceeds the limit (4300 digits) for integer string conversion: value has ".toList ++
      Text.decimal digits ++ " digits; use sys.set_int_max_str_digits() to increase the limit".toList

/-- The parts of a colour have one byte each. -/
def maxPart : Nat := 255

def part (digits : Text) : Except NumberFault Nat :=
  if digits = [] then .error .empty
  else if maxDigits < digits.length then .error (.tooLong digits.length)
  else .ok (Text.valueOf digits)

/-- What stands in brackets after a word. -/
def inBrackets? (word : String) (w : Text) : Option Text :=
  match Text.afterWord (word.toList ++ ['(']) w with
  | some r => if r.getLast? = some ')' then some r.dropLast else none
  | none => none

/-- The digits of red, green and blue in a word that gives a colour by its parts. -/
def parts? (w : Text) : Option (List Text) :=
  (inBrackets? "rgb" w).bind fun r =>
    if r ≠ [] && r.all fun c => c = ',' || (Text.digit? c).isSome then some (r.splitOn ',') else none

/-- Whether a word in small letters is a colour: by name, by its number, or by its parts. Of three parts each has to be
a number. -/
def isColour (w : Text) : Except NumberFault Bool :=
  match parts? w with
  | some [red, green, blue] => return (← [red, green, blue].mapM part).all (· ≤ maxPart)
  | some _ => .ok false
  | none => .ok <|
    w = "default".toList || names.contains w ||
      (match w with
        | '#' :: r => r.length = 6 && r.all isHexDigit
        | _ => false) ||
      (inBrackets? "color" w).any fun n =>
        n ≠ [] && n.length ≤ 3 && n.all isDigit && Text.valueOf n ≤ maxPart

end Colour

/-- How text is shown. Of two settings of one attribute the first counts. -/
structure Style where
  attributes : List (Attribute × Bool)
  colour : Option Text
  background : Option Text
  link : Option Text
deriving DecidableEq

namespace Style

def plain : Style := ⟨[], none, none, none⟩

def set (s : Style) (a : Attribute) (on : Bool) : Style := { s with attributes := (a, on) :: s.attributes }

/-- Why words are no style. -/
inductive Fault where
  | unknown
  | number (f : Colour.NumberFault)
deriving DecidableEq

/-- A word as the colour that it names. -/
def colourWord (w : Text) : Except Fault Text :=
  match Colour.isColour w with
  | .error f => .error (.number f)
  | .ok isColour => if isColour then .ok w else .error .unknown

/-- A style with what further words say. -/
def read (s : Style) : List Text → Except Fault Style
  | [] => .ok s
  | w :: ws =>
    let word := Text.lower w
    if word = "on".toList then
      match ws with
      | [] => .error .unknown
      | c :: rest =>
        match colourWord (Text.lower c) with
        | .error f => .error f
        | .ok c => read { s with background := some c } rest
    else if word = "not".toList then
      match ws with
      | [] => .error .unknown
      | a :: rest =>
        match Attribute.ofWord? a with
        | some a => read (s.set a false) rest
        | none => .error .unknown
    else if word = "link".toList then
      match ws with
      | [] => .error .unknown
      | target :: rest => read { s with link := some target } rest
    else
      match Attribute.ofWord? word with
      | some a => read (s.set a true) ws
      | none =>
        match colourWord word with
        | .error f => .error f
        | .ok c => read { s with colour := some c } ws

/-- A number that cannot be read in the words of a style. -/
def fault? (t : Text) : Option Colour.NumberFault :=
  match read plain (Text.words t) with
  | .error (.number f) => some f
  | _ => none

def attributeText (s : Style) (a : Attribute) : Option Text :=
  (s.attributes.lookup a).map fun on => if on then a.name else "not ".toList ++ a.name

/-- The words of a style in a fixed order. -/
def text (s : Style) : Text :=
  let words := Attribute.all.filterMap s.attributeText ++ s.colour.toList ++
    (s.background.map ("on ".toList ++ ·)).toList ++ (s.link.map ("link ".toList ++ ·)).toList
  if words = [] then "none".toList else Text.joinWith " " words

/-- The name that all spellings of one style share; a name that is no style is in small letters without outer
blanks. -/
def canonical (t : Text) : Except Colour.NumberFault Text :=
  if Text.trim t = "none".toList then .ok "none".toList
  else
    match read plain (Text.words t) with
    | .ok s => .ok s.text
    | .error .unknown => .ok (Text.lower (Text.trim t))
    | .error (.number f) => .error f

end Style

end DependencyAudit
