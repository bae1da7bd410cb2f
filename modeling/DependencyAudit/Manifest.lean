import DependencyAudit.Finding
import DependencyAudit.Json.Reader
import DependencyAudit.VersionSpec
import DependencyAudit.Watchlist.Basic

namespace DependencyAudit.Manifest

/-- The members of a manifest that declare dependencies, in the order in which they are read. -/
def groups : List Text :=
  ["dependencies".toList, "devDependencies".toList, "peerDependencies".toList, "optionalDependencies".toList]

/-- One version that a manifest declares for a package. -/
structure Declaration where
  group : Text
  name : Text
  version : Text
deriving DecidableEq

/-- The versions that a string can stand for. A lone surrogate is an ordinary character to the rules, so a character
of its own takes its place; a version that holds one is on no list and is left out. -/
def candidatesOf (s : List CodePoint) : List Text :=
  match CodePoint.toText? s with
  | some t => VersionSpec.candidates t
  | none =>
    let mark := Name.standIn s
    (VersionSpec.candidates (s.map fun p => p.char?.getD mark)).filter fun v => !v.contains mark

/-- The declarations of one member; a value that is no string stands for no version. -/
def declare (group : Text) (m : List CodePoint × Json) : List Declaration :=
  match CodePoint.toText? m.1, m.2 with
  | some name, .string s => (candidatesOf s).map fun v => ⟨group, name, v⟩
  | _, _ => []

def declaredIn (manifest : Json) (group : Text) : List Declaration :=
  match manifest.member? group with
  | some (.object members) => members.flatMap (declare group)
  | _ => []

/-- The declarations of a manifest by group, member and alternative. -/
def declared (manifest : Json) : List Declaration := groups.flatMap (declaredIn manifest)

/-- The compromised versions that a manifest declares; text that is no object declares nothing. Nesting is read to a
depth. -/
def findings (depth : Nat) (w : Watchlist) (file : Path) (source content : Text) :
    Except FindingError (List Finding) :=
  match Json.read? depth content with
  | none => .ok []
  | some manifest =>
    ((declared manifest).filter fun d => w.flags d.name d.version).mapM fun d =>
      Finding.make file d.name d.version source (some d.group)

end DependencyAudit.Manifest
