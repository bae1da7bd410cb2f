import DependencyAudit.Finding
import DependencyAudit.Text.Lines
import DependencyAudit.Watchlist.Basic

namespace DependencyAudit.Lockfile

/-- Takes one quotation mark off each end that has it. -/
def unquote (mark : Char) (t : Text) : Text :=
  let t := if t.head? = some mark then t.tail else t
  if t.getLast? = some mark then t.dropLast else t

/-- The package of a specifier: what comes before the last at-sign, or all of it if that sign is the first
character or missing. -/
def specifierName (specifier : Text) : Text :=
  let t := unquote '\'' (unquote '"' specifier)
  match Text.cutLast '@' t with
  | some (c :: r, _) => c :: r
  | _ => t

/-- The parts between commas; the blanks after a comma belong to it. -/
def specifiers (t : Text) : List Text :=
  match t.splitOn ',' with
  | [] => []
  | s :: ss => s :: ss.map Text.trimLeft

/-- The packages that a header names: a line that ends in a colon and does not start with a number sign. -/
def header? (line : Text) : Option (List Text) :=
  let t := Text.trimRight line
  if line.head? ≠ some '#' ∧ t.getLast? = some ':' ∧ 2 ≤ t.length then
    some ((specifiers t.dropLast).map specifierName)
  else none

def isNameChar (c : Char) : Bool :=
  c.isAlphanum || c = '@' || c = '_' || c = '.' || c = '-'

/-- A character that opens neither a comment nor a quotation, a run of name characters, a colon, and a run
without blanks. -/
def isBareForm : Text → Bool
  | [] => false
  | c :: r =>
    c ≠ '#' && c ≠ '"' && c ≠ '\'' && !(r.takeWhile isNameChar).isEmpty &&
      match r.dropWhile isNameChar with
      | ':' :: after => !after.isEmpty && after.all fun c => !Text.isBlank c
      | _ => false

/-- The package of an entry written without a range header, cut at the first colon of the line. -/
def bareEntry? (line : Text) : Option Text :=
  if line.getLast? ≠ some ':' ∧ isBareForm (Text.trim line) then
    match Text.cutFirst ':' line with
    | some (c :: r, _) => some (Text.trim (c :: r))
    | _ => none
  else none

/-- The version that a line states in quotation marks. -/
def version? (line : Text) : Option Text :=
  match Text.afterWord "version".toList (Text.trimLeft line) with
  | none => none
  | some r =>
    match r.takeWhile Text.isBlank, r.dropWhile Text.isBlank with
    | _ :: _, '"' :: after =>
      match after.takeWhile (· ≠ '"'), after.dropWhile (· ≠ '"') with
      | c :: v, _ :: _ => some (c :: v)
      | _, _ => none
    | _, _ => none

/-- What a line says to a reader that carries the packages of the entry it is in. -/
inductive Line where
  | header (names : List Text)
  | bareEntry (name : Text)
  | version (version : Text)
  | blank
  | other
deriving DecidableEq

namespace Line

/-- The first rule that fits a line decides; a version outside an entry says nothing. -/
def read (carried : List Text) (line : Text) : Line :=
  match header? line with
  | some names => .header names
  | none =>
    match bareEntry? line with
    | some name => .bareEntry name
    | none =>
      match if carried = [] then none else version? line with
      | some v => .version v
      | none => if Text.isBlankLine line then .blank else .other

/-- The packages carried on after a line. -/
def carry (carried : List Text) : Line → List Text
  | .header names => names
  | .bareEntry name => [name]
  | .blank => []
  | .version _ => carried
  | .other => carried

/-- The compromised packages among those carried, at the version that a line states. -/
def findings (w : Watchlist) (file : Path) (source : Text) (carried : List Text) :
    Line → Except FindingError (List Finding)
  | .version v => (carried.filter fun n => w.flags n v).mapM fun n => Finding.make file n v source none
  | _ => .ok []

end Line

/-- Reads lines on from the packages carried; the first refused finding ends the reading. -/
def run (w : Watchlist) (file : Path) (source : Text) (carried : List Text) :
    List Text → Except FindingError (List Finding)
  | [] => .ok []
  | l :: ls =>
    let line := Line.read carried l
    match line.findings w file source carried with
    | .error e => .error e
    | .ok found => (run w file source (line.carry carried) ls).map (found ++ ·)

/-- The compromised versions that a lockfile resolves. -/
def findings (w : Watchlist) (file : Path) (source content : Text) : Except FindingError (List Finding) :=
  run w file source [] (Text.rows content)

/-- One line as it was read. -/
structure Step where
  line : Line
  carried : List Text
  found : Except FindingError (List Finding)

/-- The lines read, up to and with one that is refused. -/
def trace (w : Watchlist) (file : Path) (source : Text) (carried : List Text) : List Text → List Step
  | [] => []
  | l :: ls =>
    let line := Line.read carried l
    let next := line.carry carried
    match line.findings w file source carried with
    | .error e => [⟨line, next, .error e⟩]
    | .ok found => ⟨line, next, .ok found⟩ :: trace w file source next ls

end DependencyAudit.Lockfile
