import DependencyAudit.Expression.Basic
import DependencyAudit.Expression.Token

namespace DependencyAudit.Expression

/-- Mistakes for which there is a hint. -/
inductive Mistake where
  | commaMissing
  | elseMissing
  | callMissing (name : Text)
  | boundBySign (form : Text)
  | equalsForName
  | equalsFor (form : Text)
  | target (form : Text)
  | assignmentInCall
  | unpackedTooLate
  | bareGenerator
  | inOrderAfter (unpacked : Bool)
  | starredComprehension
  | bareComprehensionTarget
  | tableInComprehension
  | defaultTooEarly
  | bracketedParameters
  | slashFirst
  | slashTwice
  | slashAfterStar
  | commaAfterSlash
  | bareStar
  | starDefault
  | starTwice
  | doubleStarDefault
  | afterDoubleStar
  | defaultMissing
  | bareStarred
  | starredGroup
  | doubleStarredGroup
  | colonMissing
  | starredValue
  | valueMissing
deriving DecidableEq

def Mistake.message : Mistake → Text
  | .commaMissing => "invalid syntax. Perhaps you forgot a comma?".toList
  | .elseMissing => "expected 'else' after 'if' expression".toList
  | .callMissing name => "Missing parentheses in call to '".toList ++ name ++ "'. Did you mean ".toList ++ name ++
      "(...)?".toList
  | .boundBySign form => "cannot use assignment expressions with ".toList ++ form
  | .equalsForName => "invalid syntax. Maybe you meant '==' or ':=' instead of '='?".toList
  | .equalsFor form => "cannot assign to ".toList ++ form ++ " here. Maybe you meant '==' instead of '='?".toList
  | .target form => "cannot assign to ".toList ++ form
  | .assignmentInCall => "expression cannot contain assignment, perhaps you meant \"==\"?".toList
  | .unpackedTooLate => "iterable argument unpacking follows keyword argument unpacking".toList
  | .bareGenerator => "Generator expression must be parenthesized".toList
  | .inOrderAfter true => "positional argument follows keyword argument unpacking".toList
  | .inOrderAfter false => "positional argument follows keyword argument".toList
  | .starredComprehension => "iterable unpacking cannot be used in comprehension".toList
  | .bareComprehensionTarget => "did you forget parentheses around the comprehension target?".toList
  | .tableInComprehension => "dict unpacking cannot be used in dict comprehension".toList
  | .defaultTooEarly => "non-default argument follows default argument".toList
  | .bracketedParameters => "Lambda expression parameters cannot be parenthesized".toList
  | .slashFirst => "at least one argument must precede /".toList
  | .slashTwice => "/ may appear only once".toList
  | .slashAfterStar => "/ must be ahead of *".toList
  | .commaAfterSlash => "expected comma between / and *".toList
  | .bareStar => "named arguments must follow bare *".toList
  | .starDefault => "var-positional argument cannot have default value".toList
  | .starTwice => "* argument may appear only once".toList
  | .doubleStarDefault => "var-keyword argument cannot have default value".toList
  | .afterDoubleStar => "arguments cannot follow var-keyword argument".toList
  | .defaultMissing => "expected default value expression".toList
  | .bareStarred => "Invalid star expression".toList
  | .starredGroup => "cannot use starred expression here".toList
  | .doubleStarredGroup => "cannot use double starred expression here".toList
  | .colonMissing => "':' expected after dictionary key".toList
  | .starredValue => "cannot use a starred expression in a dictionary value".toList
  | .valueMissing => "expression expected after dictionary key and ':'".toList

/-- What can be wrong with an escape in a text. -/
inductive EscapeFault where
  | short (letter : Char) (digits : Nat)
  | beyond
  | unnamed
  | unknownName
deriving DecidableEq

def EscapeFault.message : EscapeFault → Text
  | .short letter digits => "truncated \\".toList ++ letter :: List.replicate digits 'X' ++ " escape".toList
  | .beyond => "illegal Unicode character".toList
  | .unnamed => "malformed \\N character escape".toList
  | .unknownName => "unknown Unicode character name".toList

/-- What can be wrong with a place of a text that an expression fills. -/
inductive FieldFault where
  | singleBrace
  | empty
  | emptyBefore (c : Char)
  | backslash
  | comment
  | openText
  | nestedTooDeep
  | unmatched (c : Char)
  | mismatched (closing opening : Char)
  | conversion
  | notClosed
  | fieldsTooDeep
deriving DecidableEq

def FieldFault.message : FieldFault → Text
  | .singleBrace => "single '\x7d' is not allowed".toList
  | .empty => "empty expression not allowed".toList
  | .emptyBefore c => "expression required before '".toList ++ [c, '\'']
  | .backslash => "expression part cannot include a backslash".toList
  | .comment => "expression part cannot include '#'".toList
  | .openText => "unterminated string".toList
  | .nestedTooDeep => "too many nested parenthesis".toList
  | .unmatched c => "unmatched '".toList ++ [c, '\'']
  | .mismatched closing opening =>
    "closing parenthesis '".toList ++ [closing] ++ "' does not match opening parenthesis '".toList ++ [opening, '\'']
  | .conversion => "invalid conversion character: expected 's', 'r', or 'a'".toList
  | .notClosed => "expecting '\x7d'".toList
  | .fieldsTooDeep => "expressions nested too deeply".toList

/-- What can be wrong with texts in quotation marks. Places are counted in bytes. -/
inductive QuotationFault where
  | notAscii
  | mixed
  | escape (f : EscapeFault) (first last : Nat)
  | byteEscape (place : Nat)
  | field (f : FieldFault)
deriving DecidableEq

/-- What is written in front of the faults of places that expressions fill. -/
def fieldMark : Text := "f-string: ".toList

def QuotationFault.message : QuotationFault → Text
  | .notAscii => "bytes can only contain ASCII literal characters".toList
  | .mixed => "cannot mix bytes and nonbytes literals".toList
  | .escape f first last => "(unicode error) 'unicodeescape' codec can't decode bytes in position ".toList ++
      Text.decimal first ++ '-' :: Text.decimal last ++ ": ".toList ++ f.message
  | .byteEscape place => "(value error) invalid \\x escape at position ".toList ++ Text.decimal place
  | .field .backslash => "f-string ".toList ++ FieldFault.backslash.message
  | .field .comment => "f-string ".toList ++ FieldFault.comment.message
  | .field f => fieldMark ++ f.message

/-- Why a text is no expression. -/
inductive Fault where
  | nul
  | scan (f : ScanFault)
  | mistake (m : Mistake)
  | quotation (f : QuotationFault)
  | longNumber (digits : Nat)
  | unexpectedIndent
  | unexpectedDedent
  | ill
  | filling (f : Fault)
deriving DecidableEq

namespace Fault

def message : Fault → Text
  | .nul => "source code string cannot contain null bytes".toList
  | .scan f => f.message
  | .mistake m => m.message
  | .quotation f => f.message
  | .longNumber digits => "Exceeds the limit (4300 digits) for integer string conversion: value has ".toList ++
      Text.decimal digits ++ (" digits; use sys.set_int_max_str_digits() to increase the limit - Consider " ++
      "hexadecimal for huge integer literals to avoid decimal conversion limits.").toList
  | .unexpectedIndent => "unexpected indent".toList
  | .unexpectedDedent => "unexpected unindent".toList
  | .ill => "invalid syntax".toList
  | .filling f => fieldMark ++ f.message

/-- The fault of an expression that fills a place in a text. Faults of its lexemes are told as they are, and faults of
places inside it are told once. -/
def inField : Fault → Fault
  | .scan f => .scan f
  | .filling f => .filling f
  | f => .filling f

end Fault

end DependencyAudit.Expression
