import DependencyAudit.Json.Basic

namespace DependencyAudit.Json

/-- What is missing or wrong at a place of a text that spells no value. -/
inductive Misfit where
  | value
  | name
  | colon
  | comma
  | openString
  | control
  | escape
  | unit
  | extra
  | orderMark
deriving DecidableEq

def Misfit.message : Misfit → Text
  | .value => "Expecting value".toList
  | .name => "Expecting property name enclosed in double quotes".toList
  | .colon => "Expecting ':' delimiter".toList
  | .comma => "Expecting ',' delimiter".toList
  | .openString => "Unterminated string starting at".toList
  | .control => "Invalid control character at".toList
  | .escape => "Invalid \\escape".toList
  | .unit => "Invalid \\uXXXX escape".toList
  | .extra => "Extra data".toList
  | .orderMark => "Unexpected UTF-8 BOM (decode using utf-8-sig)".toList

/-- Why a text spells no value: something does not fit, with how much of the text is left from there, or it is beyond a
limit. -/
inductive Stop where
  | misfit (m : Misfit) (left : Nat)
  | longInteger (digits : Nat)
  | tooDeep (inArray : Bool)

/-- Why a text spells no value, with the place of what does not fit. -/
inductive ReadFault where
  | misfit (m : Misfit) (line column place : Nat)
  | longInteger (digits : Nat)
  | tooDeep (inArray : Bool)
deriving DecidableEq

def ReadFault.message : ReadFault → Text
  | .misfit m line column place => m.message ++ ": line ".toList ++ Text.decimal line ++ " column ".toList ++
      Text.decimal column ++ " (char ".toList ++ Text.decimal place ++ [')']
  | .longInteger digits => "Exceeds the limit (4300 digits) for integer string conversion: value has ".toList ++
      Text.decimal digits ++ " digits; use sys.set_int_max_str_digits() to increase the limit".toList
  | .tooDeep inArray => "maximum recursion depth exceeded while decoding a JSON ".toList ++
      (if inArray then "array".toList else "object".toList) ++ " from a unicode string".toList

/-- The fault of a text where reading has stopped. Lines are counted from one, and so are columns. -/
def Stop.inText (t : Text) : Stop → ReadFault
  | .misfit m left =>
    let before := t.take (t.length - left)
    let column := (before.reverse.takeWhile (· ≠ '\n')).length
    .misfit m (before.count '\n' + 1) (column + 1) before.length
  | .longInteger digits => .longInteger digits
  | .tooDeep inArray => .tooDeep inArray

/-- Stops at a text. -/
def stop {α : Type} (m : Misfit) (t : Text) : Except Stop α := .error (.misfit m t.length)

def isGap (c : Char) : Bool := c = ' ' || c = '\t' || c = '\n' || c = '\r'

def skipGap (t : Text) : Text := t.dropWhile isGap

def hexDigit? (c : Char) : Option Nat :=
  let n := c.toNat
  if 48 ≤ n ∧ n ≤ 57 then some (n - 48)
  else if 65 ≤ n ∧ n ≤ 70 then some (n - 55)
  else if 97 ≤ n ∧ n ≤ 102 then some (n - 87)
  else none

/-- The value of four hexadecimal digits. -/
def unit? (a b c d : Char) : Option Nat := do
  let a ← hexDigit? a
  let b ← hexDigit? b
  let c ← hexDigit? c
  let d ← hexDigit? d
  return ((a * 16 + b) * 16 + c) * 16 + d

/-- What an escape of one character stands for. -/
def shortEscape? : Char → Option Char
  | '"' => some '"'
  | '\\' => some '\\'
  | '/' => some '/'
  | 'b' => some '\x08'
  | 'f' => some '\x0c'
  | 'n' => some '\n'
  | 'r' => some '\r'
  | 't' => some '\t'
  | _ => none

def isHigh (u : Nat) : Bool := 0xD800 ≤ u && u ≤ 0xDBFF

def isLow (u : Nat) : Bool := 0xDC00 ≤ u && u ≤ 0xDFFF

def ofUnit (u : Nat) : CodePoint := if isHigh u || isLow u then .lone u else .scalar (Char.ofNat u)

/-- Puts a code point in front; a high surrogate before a low one makes one character with it. -/
def joinPair (p : CodePoint) (r : List CodePoint) : List CodePoint :=
  match p, r with
  | .lone h, .lone l :: r' =>
    if isHigh h && isLow l then .scalar (Char.ofNat (0x10000 + (h - 0xD800) * 0x400 + (l - 0xDC00))) :: r'
    else p :: r
  | _, _ => p :: r

def joinPairs (s : List CodePoint) : List CodePoint := s.foldr joinPair []

/-- Reads a string after its opening quotation mark, with the code points so far in reverse order. The text from the
opening mark on is kept for the case that there is no closing one. An escape by four digits needs something after it. -/
def stringBody (opening : Text) (done : List CodePoint) : Text → Except Stop (List CodePoint × Text)
  | [] => stop .openString opening
  | '"' :: r => .ok (joinPairs done.reverse, r)
  | ['\\'] => stop .openString opening
  | '\\' :: 'u' :: a :: b :: c :: d :: e :: r =>
    match unit? a b c d with
    | some u => stringBody opening (ofUnit u :: done) (e :: r)
    | none => stop .unit ('u' :: a :: b :: c :: d :: e :: r)
  | '\\' :: 'u' :: r => stop .unit ('u' :: r)
  | '\\' :: e :: r =>
    match shortEscape? e with
    | some c => stringBody opening (.scalar c :: done) r
    | none => stop .escape ('\\' :: e :: r)
  | c :: r => if c.toNat < 32 then stop .control (c :: r) else stringBody opening (.scalar c :: done) r

def isDigit (c : Char) : Bool := '0' ≤ c && c ≤ '9'

/-- The digits before the point: a lone zero, or digits that do not start with one. -/
def wholeDigits (t : Text) : Text :=
  match t with
  | '0' :: _ => ['0']
  | _ => t.takeWhile isDigit

/-- The fraction with its point; empty if no digit follows the point. -/
def fraction : Text → Text
  | '.' :: r => match r.takeWhile isDigit with
    | [] => []
    | ds => '.' :: ds
  | _ => []

/-- The exponent with its letter and sign; empty if no digit follows. -/
def exponent : Text → Text
  | e :: r =>
    if e = 'e' ∨ e = 'E' then
      let sign := r.takeWhile fun c => c = '+' || c = '-'
      match sign.length, (r.drop sign.length).takeWhile isDigit with
      | 0, d :: ds => e :: d :: ds
      | 1, d :: ds => e :: sign ++ d :: ds
      | _, _ => []
    else []
  | [] => []

def naturalOf (digits : Text) : Nat := digits.foldl (fun n c => n * 10 + (c.toNat - 48)) 0

/-- The power of ten that an exponent stands for, its letter included. -/
def exponentValue : Text → Int
  | [] | [_] => 0
  | _ :: '-' :: ds => -(naturalOf ds : Int)
  | _ :: '+' :: ds => naturalOf ds
  | _ :: ds => naturalOf ds

/-- The number of double precision that digits, a fraction and an exponent spell. -/
def realOf (negative : Bool) (digits f e : Text) : Decimal.Double :=
  let places := f.drop 1
  Decimal.Double.ofDecimal negative (naturalOf (digits ++ places)) (exponentValue e - places.length)

/-- Reads a number whose sign is off already; it started with a text. -/
def unsigned (start : Text) (negative : Bool) (t : Text) : Except Stop (Json × Text) :=
  match wholeDigits t with
  | [] => stop .value start
  | digits =>
    let afterWhole := t.drop digits.length
    let f := fraction afterWhole
    let e := exponent (afterWhole.drop f.length)
    let rest := afterWhole.drop (f.length + e.length)
    if f = [] ∧ e = [] then
      if maxDigits < digits.length then .error (.longInteger digits.length)
      else
        let n : Int := naturalOf digits
        .ok (.integer (if negative then -n else n), rest)
    else .ok (.real (realOf negative digits f e), rest)

/-- Reads a word that stands for a value. -/
def word? (t : Text) : Option (Json × Text) :=
  let words : List (String × Json) := [("null", .null), ("true", .bool true), ("false", .bool false),
    ("NaN", .real .undefined), ("Infinity", .real (.infinite false)), ("-Infinity", .real (.infinite true))]
  words.findSome? fun (w, v) => (Text.afterWord w.toList t).map fun r => (v, r)

def scalar (t : Text) : Except Stop (Json × Text) :=
  match word? t with
  | some found => .ok found
  | none =>
    match t with
    | '-' :: r => unsigned t true r
    | _ => unsigned t false t

mutual

/-- Reads one value; the fuel bounds the work and the depth the nesting still allowed. -/
def value : Nat → Nat → Text → Except Stop (Json × Text)
  | 0, _, t => stop .value t
  | fuel + 1, depth, t =>
    match t with
    | '"' :: r => (stringBody t [] r).map fun (s, rest) => (.string s, rest)
    | '[' :: r =>
      match depth, skipGap r with
      | 0, _ => .error (.tooDeep true)
      | _ + 1, ']' :: rest => .ok (.array [], rest)
      | depth + 1, r => (items fuel depth [] r).map fun (xs, rest) => (.array xs, rest)
    | '{' :: r =>
      match depth, skipGap r with
      | 0, _ => .error (.tooDeep false)
      | _ + 1, '}' :: rest => .ok (.object [], rest)
      | depth + 1, r => (members fuel depth [] r).map fun (ms, rest) => (.object ms, rest)
    | _ => scalar t

/-- Reads the items of an array up to its closing bracket, with those so far in reverse order. -/
def items : Nat → Nat → List Json → Text → Except Stop (List Json × Text)
  | 0, _, _, t => stop .value t
  | fuel + 1, depth, done, t =>
    match value fuel depth t with
    | .error f => .error f
    | .ok (v, r) =>
      match skipGap r with
      | ',' :: rest => items fuel depth (v :: done) (skipGap rest)
      | ']' :: rest => .ok ((v :: done).reverse, rest)
      | rest => stop .comma rest

/-- Reads the members of an object up to its closing brace. -/
def members : Nat → Nat → List (List CodePoint × Json) → Text →
    Except Stop (List (List CodePoint × Json) × Text)
  | 0, _, _, t => stop .value t
  | fuel + 1, depth, done, t =>
    match t with
    | '"' :: r =>
      match stringBody t [] r with
      | .error f => .error f
      | .ok (name, r) =>
        match skipGap r with
        | ':' :: r =>
          match value fuel depth (skipGap r) with
          | .error f => .error f
          | .ok (v, r) =>
            match skipGap r with
            | ',' :: rest => members fuel depth (setMember name v done) (skipGap rest)
            | '}' :: rest => .ok (setMember name v done, rest)
            | rest => stop .comma rest
        | rest => stop .colon rest
    | _ => stop .name t

end

/-- Reads a value with nothing but gaps around it. A byte order mark in front is refused, and so is nesting of more
arrays and objects than are allowed. -/
def readAll (depth : Nat) (t : Text) : Except Stop Json :=
  if t.head? = some '\ufeff' then stop .orderMark t
  else
    match value (2 * t.length + 2) depth (skipGap t) with
    | .error f => .error f
    | .ok (v, rest) =>
      match skipGap rest with
      | [] => .ok v
      | extra => stop .extra extra

/-- The value that a text spells, with so many arrays and objects inside one another at most. -/
def read (depth : Nat) (t : Text) : Except ReadFault Json := (readAll depth t).mapError (Stop.inText t)

def read? (depth : Nat) (t : Text) : Option Json := (read depth t).toOption

end DependencyAudit.Json
