import DependencyAudit.Text.CodePoint

namespace DependencyAudit

/-- Where a path starts: at the working directory, at the root, or at the root written with two slashes. -/
inductive Anchor where
  | relative
  | root
  | doubleRoot
deriving DecidableEq

/-- A path by its components; no component is empty, a single dot, or holds a slash. -/
@[ext] structure Path where
  anchor : Anchor
  names : List Name
deriving DecidableEq

def Anchor.text : Anchor → Name
  | .relative => []
  | .root => [Name.slash]
  | .doubleRoot => [Name.slash, Name.slash]

/-- Exactly two leading slashes are kept apart from one; three or more are one. -/
def Anchor.ofText : Name → Anchor
  | .scalar '/' :: .scalar '/' :: .scalar '/' :: _ => .root
  | .scalar '/' :: .scalar '/' :: _ => .doubleRoot
  | .scalar '/' :: _ => .root
  | _ => .relative

namespace Path

/-- The name of a directory in itself. -/
def dot : Name := [.scalar '.']

/-- The name of the directory above. -/
def dotDot : Name := [.scalar '.', .scalar '.']

def here : Path := ⟨.relative, []⟩

/-- The components of a written path: repeated slashes and single dots drop out, double dots stay. -/
def components (t : Name) : List Name := (t.splitOn Name.slash).filter fun n => n ≠ [] ∧ n ≠ dot

def ofText (t : Name) : Path := ⟨Anchor.ofText t, components t⟩

/-- Names with slashes between them. -/
def joined (ns : List Name) : Name := [Name.slash].intercalate ns

def text (p : Path) : Name :=
  if p.anchor = .relative ∧ p.names = [] then dot else p.anchor.text ++ joined p.names

/-- The last component; empty for a path that has none. -/
def name (p : Path) : Name := p.names.getLast?.getD []

def child (p : Path) (n : Name) : Path := ⟨p.anchor, p.names ++ [n]⟩

/-- The second path as seen from the first. -/
def join (p q : Path) : Path :=
  if q.anchor = .relative then ⟨p.anchor, p.names ++ q.names⟩ else q

/-- What is left of a path below a directory, by whole components. -/
def relativeTo? (p directory : Path) : Option Path :=
  if p.anchor = directory.anchor then
    (directory.names.isPrefixOf? p.names).map fun rest => ⟨.relative, rest⟩
  else none

/-- The text of a path below a directory if it lies there, else of the whole path. -/
def relativeText (p : Path) (directory : Option Path) : Name :=
  match directory with
  | none => p.text
  | some d => ((p.relativeTo? d).getD p).text

end Path

end DependencyAudit
