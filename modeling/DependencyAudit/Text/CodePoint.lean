import DependencyAudit.Text.Basic

namespace DependencyAudit

/-- One code point of a string. Half of a surrogate pair can stand alone: an escape can spell it, and in the name of a
file it stands for a byte that is part of no character. -/
inductive CodePoint where
  | scalar (c : Char)
  | lone (unit : Nat)
deriving DecidableEq

namespace CodePoint

def ofText (t : Text) : List CodePoint := t.map .scalar

def char? : CodePoint → Option Char
  | .scalar c => some c
  | .lone _ => none

/-- The text of a string without lone surrogates. -/
def toText? (s : List CodePoint) : Option Text := s.mapM char?

/-- The characters of a string; lone surrogates drop out. -/
def chars (s : List CodePoint) : Text := s.filterMap char?

def isLone : CodePoint → Bool
  | .lone _ => true
  | .scalar _ => false

/-- A code point as the error stream shows it. -/
def spelled : CodePoint → Text
  | .scalar c => [c]
  | .lone unit => ['\\', 'u'] ++ Text.hexPadded 4 unit

end CodePoint

/-- Lone surrogates that follow one another: the first of them, how many, and where they stand. -/
structure LoneRun where
  first : Nat
  count : Nat
  place : Nat
deriving DecidableEq

/-- That surrogates have no bytes: one is named, of more it is said where they stand. -/
def LoneRun.message (run : LoneRun) : Text :=
  let what :=
    if run.count = 1 then
      "character '\\u".toList ++ Text.hexPadded 4 run.first ++ "' in position ".toList ++ Text.decimal run.place
    else
      "characters in position ".toList ++ Text.decimal run.place ++ '-' :: Text.decimal (run.place + run.count - 1)
  "'utf-8' codec can't encode ".toList ++ what ++ ": surrogates not allowed".toList

/-- The name of a file, or a path, as the system tells it: what in its bytes is no text is in it as lone surrogates. -/
abbrev Name := List CodePoint

instance : Coe Text Name := ⟨CodePoint.ofText⟩

namespace Name

def slash : CodePoint := .scalar '/'

/-- The character that no name can hold. -/
def null : CodePoint := .scalar '\x00'

def isText (n : Name) : Bool := n.all (!·.isLone)

def spelled (n : Name) : Text := n.flatMap CodePoint.spelled

/-- A character that a string does not hold. -/
def standIn (n : Name) : Char :=
  let marks := (List.range (n.length + 1)).map fun k => Char.ofNat (0xF0000 + k)
  (marks.find? fun c => !n.contains (.scalar c)).getD (Char.ofNat 0xF0000)

/-- The first lone surrogates in a string. -/
def loneRun? (n : Name) : Option LoneRun :=
  let ahead := n.takeWhile (!·.isLone)
  match n.drop ahead.length with
  | .lone first :: rest => some ⟨first, (rest.takeWhile CodePoint.isLone).length + 1, ahead.length⟩
  | _ => none

/-- The bytes that a name stands for. -/
def bytes (n : Name) : List UInt8 :=
  n.flatMap fun p =>
    match p with
    | .scalar c => String.utf8EncodeChar c
    | .lone unit => [unit.toUInt8]

end Name

end DependencyAudit
