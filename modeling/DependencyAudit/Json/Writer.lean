import DependencyAudit.Decimal.Shortest
import DependencyAudit.Json.Basic

namespace DependencyAudit.Json

def escapeChar (c : Char) : Text :=
  if c = '"' ∨ c = '\\' then ['\\', c]
  else if c = '\n' then ['\\', 'n']
  else if c = '\r' then ['\\', 'r']
  else if c = '\t' then ['\\', 't']
  else if c = '\x08' then ['\\', 'b']
  else if c = '\x0c' then ['\\', 'f']
  else if c.toNat < 32 then ['\\', 'u'] ++ Text.hexPadded 4 c.toNat
  else [c]

/-- A lone surrogate stays as it is, so that the printed form is no text then. -/
def escapePoint : CodePoint → List CodePoint
  | .scalar c => CodePoint.ofText (escapeChar c)
  | .lone u => [.lone u]

def printString (s : List CodePoint) : List CodePoint :=
  .scalar '"' :: s.flatMap escapePoint ++ [.scalar '"']

/-- Digits with their point set after so many of them. Up to sixteen digits before the point and three zeros after it
are written out; otherwise one digit stands before the point, and a signed exponent of two digits at least follows. -/
def printDigits (digits : Text) (point : Int) : Text :=
  if -4 < point ∧ point ≤ 16 then
    let whole :=
      if point ≤ 0 then ['0'] else digits.take point.toNat ++ List.replicate (point.toNat - digits.length) '0'
    let rest := List.replicate (-point).toNat '0' ++ digits.drop point.toNat
    whole ++ '.' :: if rest = [] then ['0'] else rest
  else
    let e := point - 1
    let rest := digits.drop 1
    digits.take 1 ++ (if rest = [] then [] else '.' :: rest) ++ ['e', if e < 0 then '-' else '+'] ++
      Text.zeroPadded 2 e.natAbs

/-- The shortest text that reads back to a number; a point or an exponent tells it from an integer. -/
def printReal : Decimal.Double → Text
  | .finite negative s e =>
    let text :=
      if s = 0 then "0.0".toList
      else
        let x := Decimal.Shortest.ofPositive s e
        let digits := Text.decimal x.digits
        printDigits digits (digits.length + x.exponent)
    if negative then '-' :: text else text
  | .infinite false => "Infinity".toList
  | .infinite true => "-Infinity".toList
  | .undefined => "NaN".toList

/-- A line break and two spaces for each level. -/
def newLine (level : Nat) : List CodePoint := CodePoint.ofText ('\n' :: List.replicate (2 * level) ' ')

def mark (s : String) : List CodePoint := CodePoint.ofText s.toList

def isLong (n : Int) : Bool := maxDigits < (Text.decimal n.natAbs).length

/-- What is printed in one go: code points, or an integer that has too many digits for it. -/
inductive Piece where
  | points (ps : List CodePoint)
  | longInteger

/-- Why a value has no printed form: surrogates are no text, and an integer can have too many digits. -/
inductive WriteFault where
  | lone (run : LoneRun)
  | longInteger
deriving DecidableEq

namespace Piece

def fault? : Piece → Option WriteFault
  | .points ps => (Name.loneRun? ps).map .lone
  | .longInteger => some .longInteger

def text : Piece → Text
  | .points ps => CodePoint.chars ps
  | .longInteger => []

end Piece

mutual

/-- The pieces of a value: one item or member a line, indented by its level. An item that is no array or object is
printed in one go with the lead before it. -/
def pieces (level : Nat) (lead : List CodePoint) : Json → List Piece
  | .null => [.points (lead ++ mark "null")]
  | .bool true => [.points (lead ++ mark "true")]
  | .bool false => [.points (lead ++ mark "false")]
  | .integer n => [if isLong n then .longInteger else .points (lead ++ CodePoint.ofText (Text.signed n))]
  | .real x => [.points (lead ++ CodePoint.ofText (printReal x))]
  | .string s => [.points (lead ++ printString s)]
  | .array [] => [.points lead, .points (mark "[]")]
  | .array (v :: vs) =>
    .points lead :: pieces (level + 1) (mark "[" ++ newLine (level + 1)) v ++ itemPieces (level + 1) vs ++
      [.points (newLine level), .points (mark "]")]
  | .object [] => [.points lead, .points (mark "\x7b\x7d")]
  | .object ((n, v) :: ms) =>
    [.points lead, .points (mark "\x7b"), .points (newLine (level + 1)), .points (printString n),
      .points (mark ": ")] ++ pieces (level + 1) [] v ++ memberPieces (level + 1) ms ++
      [.points (newLine level), .points (mark "\x7d")]

def itemPieces (level : Nat) : List Json → List Piece
  | [] => []
  | v :: vs => pieces level (mark "," ++ newLine level) v ++ itemPieces level vs

def memberPieces (level : Nat) : List (List CodePoint × Json) → List Piece
  | [] => []
  | (n, v) :: ms =>
    [.points (mark "," ++ newLine level), .points (printString n), .points (mark ": ")] ++ pieces level [] v ++
      memberPieces level ms

end

/-- What of a value is printed, and why it is not all of it if it is not. -/
structure Printed where
  text : Text
  fault : Option WriteFault

/-- Prints a value up to the first piece that cannot be printed. -/
def write (v : Json) : Printed :=
  let ps := pieces 0 [] v
  ⟨(ps.takeWhile (·.fault?.isNone)).flatMap Piece.text, ps.findSome? Piece.fault?⟩

end DependencyAudit.Json
