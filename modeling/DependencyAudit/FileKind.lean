import DependencyAudit.Path

namespace DependencyAudit

/-- The files that tell which package versions a project uses: manifests declare them, lockfiles resolve them. -/
inductive FileKind where
  | manifest
  | lockfile
deriving DecidableEq

namespace FileKind

def fileName : FileKind → Text
  | .manifest => "package.json".toList
  | .lockfile => "yarn.lock".toList

def label : FileKind → Text
  | .manifest => "manifest".toList
  | .lockfile => "lockfile".toList

def ofName? (name : Name) : Option FileKind :=
  if name = fileName .manifest then some .manifest
  else if name = fileName .lockfile then some .lockfile
  else none

end FileKind

/-- A file whose name marks it as a manifest or a lockfile. -/
structure Candidate where
  path : Path
  kind : FileKind
deriving DecidableEq

namespace Candidate

def ofPath? (p : Path) : Option Candidate := (FileKind.ofName? p.name).map fun k => ⟨p, k⟩

end Candidate

end DependencyAudit
