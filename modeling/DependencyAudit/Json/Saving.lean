import DependencyAudit.FileSystem.Basic
import DependencyAudit.Json.Writer
import DependencyAudit.Log

namespace DependencyAudit.Json

/-- Why a value is not saved. -/
inductive SaveFault where
  | noPath
  | unencodable (f : WriteFault)
  | refused (f : OpenFault)
deriving DecidableEq

def WriteFault.message : WriteFault → Text
  | .lone run => run.message
  | .longInteger => ("Exceeds the limit (4300 digits) for integer string conversion; " ++
      "use sys.set_int_max_str_digits() to increase the limit").toList

def SaveFault.message : SaveFault → Text
  | .noPath => "No output file specified".toList
  | .unencodable f => f.message
  | .refused .nullByte => "embedded null byte".toList
  | .refused (.os e) => e.message

/-- What saving a value leaves: the files, the bytes that went out to its path, the path it was saved at or why it was
not, and the note about it. -/
structure Saved where
  files : FileSystem
  sent : List UInt8
  result : Except SaveFault Path
  log : List Log.Entry

/-- Where to save: the path asked for in its own spelling unless that is empty, else the default. -/
def target? (asked : Option Name) (default : Option Path) : Option Name :=
  match asked with
  | some (c :: r) => some (c :: r)
  | _ => default.map (·.text)

/-- Saves a value in its printed form. The file is opened before anything is printed; what is printed before a fault
stays in it. -/
def save (fs : FileSystem) (asked : Option Name) (default : Option Path) (v : Json) : Saved :=
  match target? asked default with
  | none => ⟨fs, [], .error .noPath, []⟩
  | some path =>
    let printed := write v
    let stored := fs.writeFile path (Utf8.encode printed.text)
    match stored.fault, printed.fault with
    | some f, _ => ⟨stored.files, stored.sent, .error (.refused f), []⟩
    | none, some f => ⟨stored.files, stored.sent, .error (.unencodable f), []⟩
    | none, none =>
      ⟨stored.files, stored.sent, .ok (Path.ofText path),
        [Log.entry "JSONFormatter" .debug ["Results saved to ".toList, path.spelled]]⟩

end DependencyAudit.Json
