import DependencyAudit.Text.Digits

namespace DependencyAudit.Expression

/-- The ways to write whole numbers. -/
inductive Radix where
  | binary
  | octal
  | decimal
  | hexadecimal
deriving DecidableEq

namespace Radix

def base : Radix → Nat
  | .binary => 2
  | .octal => 8
  | .decimal => 10
  | .hexadecimal => 16

def word : Radix → Text
  | .binary => "binary".toList
  | .octal => "octal".toList
  | .decimal => "decimal".toList
  | .hexadecimal => "hexadecimal".toList

/-- What a letter after a leading zero announces. -/
def ofLetter? (c : Char) : Option Radix :=
  if c = 'x' ∨ c = 'X' then some .hexadecimal
  else if c = 'o' ∨ c = 'O' then some .octal
  else if c = 'b' ∨ c = 'B' then some .binary
  else none

end Radix

/-- The value of a hexadecimal digit. -/
def hexDigit? (c : Char) : Option Nat :=
  if '0' ≤ c ∧ c ≤ '9' then some (c.toNat - 48)
  else if 'a' ≤ c ∧ c ≤ 'f' then some (c.toNat - 87)
  else if 'A' ≤ c ∧ c ≤ 'F' then some (c.toNat - 55)
  else none

/-- The value of a digit that a radix has. -/
def Radix.digit? (r : Radix) (c : Char) : Option Nat := (hexDigit? c).filter (· < r.base)

/-- A number as far as literals are told apart: a whole one with its count of decimal digits, a real or an imaginary
one. -/
inductive Number where
  | whole (value : Nat) (digits : Nat)
  | real
  | imaginary
deriving DecidableEq

/-- What can be wrong with a number. -/
inductive NumberFault where
  | ill (kind : Text)
  | digit (c : Char) (r : Radix)
  | leadingZeros
deriving DecidableEq

def NumberFault.message : NumberFault → Text
  | .ill kind => "invalid ".toList ++ kind ++ " literal".toList
  | .digit c r => "invalid digit '".toList ++ [c] ++ "' in ".toList ++ r.word ++ " literal".toList
  | .leadingZeros => ("leading zeros in decimal integer literals are not permitted; " ++
      "use an 0o prefix for octal integers").toList

namespace Number

def isDigit (c : Char) : Bool := '0' ≤ c && c ≤ '9'

/-- Letters, digits, the underscore and whatever is beyond ASCII run on in a name. -/
def runsOn (c : Char) : Bool := c.isAlphanum || c = '_' || 128 ≤ c.toNat

/-- Digits that may have single underscores in front and between them, and what follows; else what stands where a digit
is missing. -/
def digits (r : Radix) : Text → Except Text (List Nat × Text)
  | '_' :: c :: rest =>
    match r.digit? c with
    | some d => (digits r rest).map fun (ds, rest) => (d :: ds, rest)
    | none => .error (c :: rest)
  | '_' :: [] => .error []
  | c :: rest =>
    match r.digit? c with
    | some d => (digits r rest).map fun (ds, rest) => (d :: ds, rest)
    | none => .ok ([], c :: rest)
  | [] => .ok ([], [])

def valueOf (r : Radix) (ds : List Nat) : Nat := ds.foldl (fun n d => n * r.base + d) 0

/-- The words that may stand right behind a number. -/
def followers : List String := ["and", "else", "for", "or", "not"]

/-- Whether a text starts with a word. -/
def startsWith (t : Text) (w : String) : Bool :=
  match Text.afterWord w.toList t with
  | some rest => !rest.head?.any runsOn
  | none => false

/-- A number may end before a follower, or two letters that such a word starts with, but before no other letter or
digit of ASCII. -/
def mayEnd (t : Text) : Bool :=
  followers.any (startsWith t) ||
    match t with
    | 'i' :: c :: _ => c = 'f' || c = 'n' || c = 's'
    | c :: _ => !(c.isAlphanum || c = '_')
    | [] => true

/-- A number of some kind before what follows it. -/
def ended (n : Number) (kind : Text) (rest : Text) : Except NumberFault (Number × Text) :=
  if mayEnd rest then .ok (n, rest) else .error (.ill kind)

/-- A number in another radix than ten, after its letter. -/
def marked (r : Radix) (t : Text) : Except NumberFault (Number × Text) :=
  let missing (at? : Text) : NumberFault :=
    match at? with
    | c :: _ => if isDigit c then .digit c r else .ill r.word
    | [] => .ill r.word
  match digits r t with
  | .error rest => .error (missing rest)
  | .ok ([], rest) => .error (missing rest)
  | .ok (ds, rest) =>
    if rest.head?.any isDigit then .error (missing rest) else ended (.whole (valueOf r ds) 0) r.word rest

/-- The end of a number that is no whole one: the letter of an imaginary number, or none. -/
def unit (n : Number) (t : Text) : Except NumberFault (Number × Text) :=
  match t with
  | c :: rest =>
    if c = 'j' ∨ c = 'J' then ended .imaginary "imaginary".toList rest else ended n Radix.decimal.word t
  | [] => .ok (n, [])

/-- The digits of a decimal number, of which there is at least one, and what follows. -/
def decimalDigits (t : Text) : Except NumberFault (List Nat × Text) :=
  (digits .decimal t).mapError fun _ => .ill Radix.decimal.word

/-- The exponent of a number, if there is one, and what is left of it. A letter without digits belongs to what
follows. -/
def exponent (n : Number) (t : Text) : Except NumberFault (Number × Text) :=
  match t with
  | e :: rest =>
    if e = 'e' ∨ e = 'E' then
      match rest with
      | c :: more =>
        if c = '+' ∨ c = '-' then
          if more.head?.any isDigit then (decimalDigits more).bind fun (_, rest) => unit .real rest
          else .error (.ill Radix.decimal.word)
        else if isDigit c then (decimalDigits rest).bind fun (_, rest) => unit .real rest
        else ended n Radix.decimal.word t
      | [] => ended n Radix.decimal.word t
    else unit n t
  | [] => .ok (n, [])

/-- The part of a number behind its point. -/
def fraction (t : Text) : Except NumberFault (Number × Text) :=
  if t.head?.any isDigit then (decimalDigits t).bind fun (_, rest) => exponent .real rest else exponent .real t

/-- A number that starts with a decimal digit. -/
def decimal (t : Text) : Except NumberFault (Number × Text) := do
  let (ds, rest) ← decimalDigits t
  let n := Number.whole (valueOf .decimal ds) ds.length
  match rest with
  | '.' :: rest => fraction rest
  | c :: _ =>
    if c = 'e' ∨ c = 'E' ∨ c = 'j' ∨ c = 'J' then exponent n rest
    else if ds.head? = some 0 ∧ ds.any (· ≠ 0) then .error .leadingZeros
    else ended n Radix.decimal.word rest
  | [] => if ds.head? = some 0 ∧ ds.any (· ≠ 0) then .error .leadingZeros else .ok (n, [])

/-- The number that a text starts with, which starts with a digit or with a point and a digit. -/
def read (t : Text) : Except NumberFault (Number × Text) :=
  match t with
  | '.' :: rest => fraction rest
  | '0' :: c :: rest =>
    match Radix.ofLetter? c with
    | some r => marked r rest
    | none => decimal t
  | _ => decimal t

end Number

end DependencyAudit.Expression
