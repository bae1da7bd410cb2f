import DependencyAudit.Expression.Reading

namespace DependencyAudit.Expression

open Reading

/-! The parameters of a lambda expression, each of which ends with a comma or before the colon. -/

namespace Parameters

/-- The end of a parameter. -/
def stop : Reading Unit := firstOf [sign ",", ahead (sign ":")]

/-- A parameter without a default value. -/
def plain : Reading Unit := do
  let _ ← name
  stop

def default (self : Rule → Reading Expr) : Reading Unit :=
  firstOf [
    (do sign "="; let _ ← self .expression),
    mistakes [mistake .defaultMissing (do sign "="; ahead (firstOf [sign ")", sign ","]))]]

def withDefault (self : Rule → Reading Expr) : Reading Unit := do
  let _ ← name
  default self
  stop

def maybeDefault (self : Rule → Reading Expr) : Reading Unit := do
  let _ ← name
  let _ ← optional (default self)
  stop

/-- The slash after which parameters can be given by name. -/
def slash : Reading Unit := do
  sign "/"
  stop

def plainToSlash : Reading Unit := do
  let _ ← many1 plain
  slash

def defaultToSlash (self : Rule → Reading Expr) : Reading Unit := do
  let _ ← many plain
  let _ ← many1 (withDefault self)
  slash

def toSlash (self : Rule → Reading Expr) : Reading Unit := firstOf [plainToSlash, defaultToSlash self]

/-- The parameter that takes the names left over. -/
def names : Reading Unit :=
  firstOf [
    mistakes [
      mistake .doubleStarDefault (do sign "**"; let _ ← name; sign "="),
      mistake .afterDoubleStar (do sign "**"; let _ ← name; sign ","; name),
      mistake .afterDoubleStar
        (do sign "**"; let _ ← name; sign ","; firstOf [sign "*", sign "**", sign "/"])],
    (do sign "**"; plain)]

/-- The parameters from a star on. -/
def starred (self : Rule → Reading Expr) : Reading Unit :=
  firstOf [
    mistakes [
      mistake .bareStar
        (do sign "*"; firstOf [sign ":", (do sign ","; firstOf [sign ":", sign "**"])]),
      mistake .starDefault (do sign "*"; let _ ← name; sign "="),
      mistake .starTwice (do
        sign "*"
        firstOf [plain, sign ","]
        let _ ← many (maybeDefault self)
        sign "*"
        firstOf [plain, sign ","])],
    (do
      sign "*"
      plain
      let _ ← many (maybeDefault self)
      let _ ← optional names),
    (do
      sign "*"
      sign ","
      let _ ← many1 (maybeDefault self)
      let _ ← optional names),
    names]

def proper (self : Rule → Reading Expr) : Reading Unit :=
  firstOf [
    (do
      plainToSlash
      let _ ← many plain
      let _ ← many (withDefault self)
      let _ ← optional (starred self)),
    (do
      defaultToSlash self
      let _ ← many (withDefault self)
      let _ ← optional (starred self)),
    (do
      let _ ← many1 plain
      let _ ← many (withDefault self)
      let _ ← optional (starred self)),
    (do
      let _ ← many1 (withDefault self)
      let _ ← optional (starred self)),
    starred self]

def improper (self : Rule → Reading Expr) : Reading Unit :=
  mistakes [
    mistake .defaultTooEarly (do
      let _ ← many plain
      firstOf [defaultToSlash self, (do let _ ← many1 (withDefault self))]
      plain),
    mistake .bracketedParameters (do
      let _ ← many plain
      sign "("
      let _ ← separated name
      let _ ← optional (sign ",")
      sign ")"),
    mistake .slashFirst (do sign "/"; sign ","),
    mistake .slashTwice (do
      toSlash self
      let _ ← many (maybeDefault self)
      sign "/"),
    mistake .slashAfterStar (do
      let _ ← optional (toSlash self)
      let _ ← many (maybeDefault self)
      sign "*"
      firstOf [sign ",", plain]
      let _ ← many (maybeDefault self)
      sign "/"),
    mistake .commaAfterSlash (do
      let _ ← many1 (maybeDefault self)
      sign "/"
      sign "*")]

def all (self : Rule → Reading Expr) : Reading Unit := firstOf [improper self, proper self]

end Parameters

end DependencyAudit.Expression
