import DependencyAudit.Text.Basic

namespace DependencyAudit.VersionSpec

/-- The version of an alias that starts here: a package name free of at-signs, an at-sign, then the version up to
the next blank. -/
def aliasHere? (t : Text) : Option Text :=
  match Text.afterWord "npm:".toList t with
  | none => none
  | some r =>
    match r.takeWhile (· ≠ '@'), r.dropWhile (· ≠ '@') with
    | _ :: _, _ :: after =>
      match after.takeWhile (!Text.isBlank ·) with
      | [] => none
      | version => some version
    | _, _ => none

/-- The version of the leftmost alias in a specification. -/
def aliased? : Text → Option Text
  | [] => none
  | c :: r =>
    match aliasHere? (c :: r) with
    | some version => some version
    | none => aliased? r

/-- The alternatives of a specification, parted by double bars. -/
def alternatives : Text → List Text
  | [] => [[]]
  | '|' :: '|' :: r => [] :: alternatives r
  | c :: r => Text.pushFirst c (alternatives r)

def isOperator (c : Char) : Bool := c = '~' || c = '^' || c = '>' || c = '<' || c = '='

def dropMark : Text → Text
  | 'v' :: r => r
  | t => t

/-- An alternative without its leading range operators and version mark; compound ranges are not resolved. -/
def bare (alternative : Text) : Text :=
  let t := Text.trim alternative
  Text.trim (dropMark (t.dropWhile fun c => isOperator c || Text.isBlank c))

/-- The literal versions that a declared specification can stand for. -/
def candidates (spec : Text) : List Text :=
  match aliased? spec with
  | some version => [version]
  | none => ((alternatives spec).map bare).filter (· ≠ [])

end DependencyAudit.VersionSpec
