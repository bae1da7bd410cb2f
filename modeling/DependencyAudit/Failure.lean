import DependencyAudit.FileSystem.Fault
import DependencyAudit.Watchlist.Download

namespace DependencyAudit

/-- What ends an audit without a report. -/
inductive Failure where
  | listUnreadable (source : Name) (cause : ReadFault)
  | rootMissing (root : Path)
  | rootNotDirectory (root : Path)
  | noConcurrency (limit : Int)
  | nullByte
  | linkLoop (path : Path)
  | os (e : OsError)
  | transfer (f : Download.Fault)
deriving DecidableEq

namespace Failure

def message : Failure → Name
  | .listUnreadable source cause => CodePoint.ofText "Failed to load compromised list from ".toList ++ source ++
      CodePoint.ofText (": ".toList ++ cause.message)
  | .rootMissing root => CodePoint.ofText "Scan root does not exist: ".toList ++ root.text
  | .rootNotDirectory root => CodePoint.ofText "Scan root is not a directory: ".toList ++ root.text
  | .noConcurrency limit => "max_concurrent must be at least 1, got ".toList ++ Text.signed limit
  | .nullByte => "embedded null byte".toList
  | .linkLoop path => "Symlink loop from ".toList ++ path.text.quoted
  | .os e => e.message
  | .transfer f => f.text

def ofResolve : ResolveFault → Failure
  | .nullByte => .nullByte
  | .os e => .os e
  | .linkLoop path => .linkLoop path

/-- The failures that a user can cause and mend; any other is unexpected. -/
def isExpected : Failure → Bool
  | .listUnreadable _ _ | .rootMissing _ | .rootNotDirectory _ | .noConcurrency _ | .nullByte => true
  | .linkLoop _ => false
  | .os e => e.fault = .notFound || e.fault = .notDirectory
  | .transfer f => f.trouble ≠ .system

/-- An unexpected failure spelled out: its kind, then in brackets what it carries. -/
def spelled : Failure → Text
  | .os e =>
    (match e.fault with
      | .permissionDenied => "PermissionError(".toList
      | .isDirectory => "IsADirectoryError(".toList
      | _ => "OSError(".toList) ++
      Text.decimal e.fault.number ++ ", ".toList ++ Text.quoted e.fault.text ++ ")".toList
  | .transfer f => "OSError(".toList ++ Text.quoted f.text ++ ")".toList
  | f => "RuntimeError(".toList ++ f.message.quoted ++ ")".toList

end Failure

end DependencyAudit
