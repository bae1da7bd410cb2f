import DependencyAudit.Console.Styled
import DependencyAudit.Text.Pattern

/-!
What a screen sets off by itself in a printed text: brackets, numbers, addresses, paths, quotations and the like.
Colours are not shown, so that only the places count where such a stretch begins and ends.
-/

namespace DependencyAudit.Console.Highlight

open Text Text.Pattern

def isDigit (c : Char) : Bool := '0' ≤ c && c ≤ '9'

def isHex (c : Char) : Bool := isDigit c || ('a' ≤ c && c ≤ 'f') || ('A' ≤ c && c ≤ 'F')

def isOf (signs : String) (c : Char) : Bool := signs.toList.contains c

def digits : Pattern := .repeated (.one isDigit) 1 none true

/-- So many hexadecimal digits. -/
def hexDigits (least most : Nat) : Pattern := times (.one isHex) least most

def notBehind (p : Char → Bool) : Pattern := .test fun c => !c.before.any p

def edge : Pattern := .test Cursor.atEdge

/-- A tag in angle brackets, up to the last one that closes. -/
def tag : Pattern :=
  all [.marked (word "<"), .marked (many (.one fun c => isWord c || isOf "-.:|" c)),
    .marked (many (.one fun _ => true)), .marked (word ">")]

/-- A name with an equals sign, and a value if there is one. -/
def assignment : Pattern :=
  all [.marked (times (.one isWord) 1 50), word "=",
    optional (.marked (all [optional (word "\""), .repeated (.one isWord) 1 none true, optional (word "\"")]))]

def bracket : Pattern := .marked (.one (isOf "()[]\x7b\x7d"))

/-- Groups between separators, so many and one more. -/
def groups (count : Nat) (group separator : Pattern) : Pattern := all [times (.both group separator) count count, group]

def dottedAddress : Pattern := .marked (groups 3 (times (.one isDigit) 1 3) (word "."))

def colonAddress : Pattern :=
  .marked (all [times (all [hexDigits 1 4, word ":", optional (word ":")]) 1 7, hexDigits 1 4])

/-- The address of a device, of so many pairs of digits or half as many fours. -/
def deviceAddress (pairs : Nat) : Pattern :=
  .marked (anyOf [groups (pairs - 1) (hexDigits 1 2) (word "-"), groups (pairs - 1) (hexDigits 1 2) (word ":"),
    groups (pairs / 2 - 1) (hexDigits 4 4) (word ".")])

def identifier : Pattern :=
  .marked (all [hexDigits 8 8, word "-", hexDigits 4 4, word "-", hexDigits 4 4, word "-", hexDigits 4 4, word "-",
    hexDigits 12 12])

/-- A name in front of a round bracket. -/
def call : Pattern := .both (.marked (few (.one fun c => isWord c || c = '.'))) (word "(")

def constant (name : String) : Pattern := all [edge, .marked (word name), edge]

/-- The power of ten of a number; its digits are of any script. -/
def power (eager : Bool) : Pattern :=
  all [word "e", optional (.one (isOf "-+")), .repeated (.one fun c => (digit? c).isSome) 1 none eager]

/-- A number without its sign. -/
def magnitude (eager : Bool) : Pattern :=
  all [digits, optional (word "."), many (.one isDigit), optional (power eager)]

def complexNumber : Pattern :=
  .marked (all [notBehind isWord, optional (word "-"), magnitude false,
    optional (.both (.one (isOf "-+")) (magnitude true)), word "j"])

def number : Pattern :=
  .marked (.either (all [notBehind isWord, optional (word "-"), magnitude false, edge])
    (.both (word "0x") (many (.one isHex))))

def inPath (c : Char) : Bool := isWord c || isOf "-._+" c

def path : Pattern :=
  .both
    (.marked (all [.test fun c => !c.atEdge, many (.both (word "/") (.repeated (.one inPath) 1 none true)), word "/"]))
    (.marked (many (.one inPath)))

/-- A quotation between marks, up to the first closing mark without a backslash before it. -/
def quotedBy (mark : String) : Pattern :=
  all [optional (word "b"), word mark, few (.one (· ≠ '\n')), notBehind (· = '\\'), word mark]

def quotation : Pattern :=
  .both (notBehind fun c => c = '\\' || isWord c)
    (.marked (anyOf [quotedBy "'''", quotedBy "'", quotedBy "\"\"\"", quotedBy "\""]))

def inWebAddress (c : Char) : Bool :=
  isDigit c || ('a' ≤ c && c ≤ 'z') || ('A' ≤ c && c ≤ 'Z') || isOf "-$_+!\x60(),.?/;:&=%#~@" c

def webAddress : Pattern :=
  .marked (all [anyOf [word "file", word "https", word "http", word "ws", word "wss"], word "://",
    many (.one inWebAddress)])

/-- What is looked for, each in the whole text. -/
def features : List Pattern :=
  [tag, assignment, bracket,
    anyOf [dottedAddress, colonAddress, deviceAddress 8, deviceAddress 6, identifier, call, constant "True",
      constant "False", constant "None", .marked (word "..."), complexNumber, number, path, quotation, webAddress]]

/-- The stretches of a text that are set off. -/
def marks (t : Text) : List Mark :=
  (features.flatMap (·.stretches t)).filterMap fun (start, stop) =>
    if start < stop then some ⟨start, stop, []⟩ else none

end DependencyAudit.Console.Highlight
