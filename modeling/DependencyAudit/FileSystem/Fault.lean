import DependencyAudit.Path
import DependencyAudit.Text.Quoted
import DependencyAudit.Text.Utf8

namespace DependencyAudit

/-- What the operating system refuses. -/
inductive OsFault where
  | notFound
  | inputOutput
  | permissionDenied
  | notDirectory
  | isDirectory
  | nameTooLong
  | noSpace
  | readOnly
  | tooManyLinks
deriving DecidableEq

namespace OsFault

def number : OsFault → Nat
  | .notFound => 2
  | .inputOutput => 5
  | .permissionDenied => 13
  | .notDirectory => 20
  | .isDirectory => 21
  | .noSpace => 28
  | .readOnly => 30
  | .nameTooLong => 36
  | .tooManyLinks => 40

def text : OsFault → Text
  | .notFound => "No such file or directory".toList
  | .inputOutput => "Input/output error".toList
  | .permissionDenied => "Permission denied".toList
  | .notDirectory => "Not a directory".toList
  | .isDirectory => "Is a directory".toList
  | .noSpace => "No space left on device".toList
  | .readOnly => "Read-only file system".toList
  | .nameTooLong => "File name too long".toList
  | .tooManyLinks => "Too many levels of symbolic links".toList

end OsFault

/-- A refusal, with the path that it is about in the spelling it was given in. Once a file is open, no path is told. -/
structure OsError where
  fault : OsFault
  path : Option Name
deriving DecidableEq

def OsError.message (e : OsError) : Text :=
  "[Errno ".toList ++ Text.decimal e.fault.number ++ "] ".toList ++ e.fault.text ++
    match e.path with
    | some path => ": ".toList ++ path.quoted
    | none => []

/-- Why a file cannot be opened, or cannot be written to its end. -/
inductive OpenFault where
  | nullByte
  | os (e : OsError)
deriving DecidableEq

/-- Why a file gives no text. -/
inductive ReadFault where
  | os (e : OsError)
  | undecodable (f : Utf8.Fault)
deriving DecidableEq

def ReadFault.message : ReadFault → Text
  | .os e => e.message
  | .undecodable f => f.message

/-- Why a path has no resolved form. -/
inductive ResolveFault where
  | nullByte
  | os (e : OsError)
  | linkLoop (path : Path)
deriving DecidableEq

end DependencyAudit
