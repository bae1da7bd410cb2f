import DependencyAudit.Path

namespace DependencyAudit

/-- Why something found is refused as a finding. -/
inductive FindingError where
  | emptyName
  | emptyVersion
deriving DecidableEq

def FindingError.message : FindingError → Text
  | .emptyName => "Finding name cannot be empty".toList
  | .emptyVersion => "Finding version cannot be empty".toList

/-- A compromised package version found in a file. The source is the kind of file that told, the group the
part of a manifest that declares it. -/
@[ext] structure Finding where
  file : Path
  name : Text
  version : Text
  source : Text
  group : Option Text
  name_ne : name ≠ []
  version_ne : version ≠ []
deriving DecidableEq

namespace Finding

def make (file : Path) (name version source : Text) (group : Option Text) : Except FindingError Finding :=
  if hn : name = [] then .error .emptyName
  else if hv : version = [] then .error .emptyVersion
  else .ok ⟨file, name, version, source, group, hn, hv⟩

/-- Findings with the same key are the same find. -/
structure Key where
  file : Path
  name : Text
  version : Text
deriving DecidableEq

def key (f : Finding) : Key := ⟨f.file, f.name, f.version⟩

def spec (f : Finding) : Text := f.name ++ '@' :: f.version

/-- Adds a finding unless one with its key is there. -/
def keep (kept : List Finding) (f : Finding) : List Finding :=
  if kept.any (·.key = f.key) then kept else kept ++ [f]

/-- One finding per key: the first, in order of first appearance. -/
def distinct (fs : List Finding) : List Finding := fs.foldl keep []

end Finding

end DependencyAudit
