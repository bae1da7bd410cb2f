import DependencyAudit.FileKind
import DependencyAudit.FileSystem.Basic
import DependencyAudit.Log

namespace DependencyAudit

/-- What a walk meets: a regular file with what opening it gives, or something that it has to skip. -/
inductive Visit where
  | file (path : Path) (readable : Bool) (bytes : List UInt8)
  | skippedDirectory (path : Path) (fault : OsFault)
  | skippedEntry (path : Path) (fault : OsFault)

namespace Visit

def path? : Visit → Option Path
  | .file p _ _ => some p
  | _ => none

def entry? : Visit → Option Log.Entry
  | .file _ _ _ => none
  | .skippedDirectory p fault => some (Log.entry "PathUtils" .debug
      ["Skipping unreadable directory ".toList, p.text.spelled, ": ".toList, (OsError.mk fault p.text).message])
  | .skippedEntry p fault => some (Log.entry "PathUtils" .debug
      ["Skipping unreadable entry ".toList, p.text.spelled, ": ".toList, (OsError.mk fault p.text).message])

end Visit

namespace Walk

/-- Version control, dependency caches, build output and editor settings hold no sources of the project. -/
def ignoredTexts : List Text :=
  ["node_modules".toList, ".git".toList, ".hg".toList, ".svn".toList, ".idea".toList, ".vscode".toList,
    "dist".toList, "build".toList, "coverage".toList, ".cache".toList]

def ignoredNames : List Name := ignoredTexts.map CodePoint.ofText

def isIgnored (name : Name) : Bool := ignoredNames.contains name

/-- A directory under way with the entries still to come. -/
structure Frame where
  directory : Path
  entries : List (Entry Node)

mutual

def nodeWeight : Node → Nat
  | .directory _ es => entriesWeight es + 2
  | _ => 1

def entriesWeight : List (Entry Node) → Nat
  | [] => 0
  | e :: es => nodeWeight e.node + entriesWeight es

end

theorem nodeWeight_pos (n : Node) : 0 < nodeWeight n := by
  cases n <;> simp [nodeWeight]

def stackWeight : List Frame → Nat
  | [] => 0
  | f :: stack => entriesWeight f.entries + 1 + stackWeight stack

/-- Why a directory at a path cannot be listed. -/
def refusal? (path : Path) (listable : Bool) : Option OsFault :=
  if !listable then some .permissionDenied
  else if FileSystem.pathTooLong path.text then some .nameTooLong
  else none

/-- Walks depth first: a subdirectory is finished before the next entry of its parent. Links and special files
are passed over. -/
def run (ignored : List Name) : List Frame → List Visit
  | [] => []
  | ⟨_, []⟩ :: stack => run ignored stack
  | ⟨directory, ⟨name, checkFails, isBarred, node⟩ :: es⟩ :: stack =>
    let path := directory.child name
    if checkFails then .skippedEntry path .inputOutput :: run ignored (⟨directory, es⟩ :: stack)
    else
      match node with
      | .file bytes => .file path (!isBarred) bytes :: run ignored (⟨directory, es⟩ :: stack)
      | .directory listable inner =>
        if ignored.contains name then run ignored (⟨directory, es⟩ :: stack)
        else
          match refusal? path listable with
          | none => run ignored (⟨path, inner⟩ :: ⟨directory, es⟩ :: stack)
          | some fault => .skippedDirectory path fault :: run ignored (⟨directory, es⟩ :: stack)
      | .link _ => run ignored (⟨directory, es⟩ :: stack)
      | .special _ => run ignored (⟨directory, es⟩ :: stack)
termination_by stack => stackWeight stack
decreasing_by
  all_goals simp [stackWeight, entriesWeight, nodeWeight, nodeWeight_pos]
  all_goals omega

/-- Walks from a root, which is listed whatever its name. -/
def visits (ignored : List Name) (root : Path) (start : Except OsFault Node) : List Visit :=
  match start with
  | .error fault => [.skippedDirectory root fault]
  | .ok (.directory true es) => run ignored [⟨root, es⟩]
  | .ok (.directory false _) => [.skippedDirectory root .permissionDenied]
  | .ok _ => [.skippedDirectory root .notDirectory]

/-- Walks from the directory at a path. No path holds a null character. -/
def visitsBelow (ignored : List Name) (fs : FileSystem) (root : Path) : Except OpenFault (List Visit) :=
  if root.text.contains Name.null then .error .nullByte else .ok (visits ignored root (fs.stat root.text))

def files (vs : List Visit) : List Path := vs.filterMap Visit.path?

def candidates (vs : List Visit) : List Candidate := (files vs).filterMap Candidate.ofPath?

def log (vs : List Visit) : List Log.Entry := vs.filterMap Visit.entry?

end Walk

end DependencyAudit
