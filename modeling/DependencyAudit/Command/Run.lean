import DependencyAudit.Command.Lookup
import DependencyAudit.Command.Scan

namespace DependencyAudit.Command

/-- A command line that is not understood ends with this code. -/
def usageCode : Nat := 2

/-- The forms of a command line. -/
def usage : List Text :=
  ["Scan a project tree for known-compromised npm package versions".toList,
    [],
    "  scan [--root DIRECTORY] [--json-out FILE] [--compromised-file FILE] [--compromised-url URL]".toList,
    "       [--verbose] [--performance]".toList,
    "  check PACKAGE VERSION [--compromised-file FILE]".toList,
    "  info [--compromised-file FILE] [--compromised-url URL]".toList]

def answer (s : Surroundings) : Request → Outcome
  | .scan options => scan s options
  | .check package version listFile => check s package version listFile
  | .info listFile listUrl => info s listFile listUrl
  | .help => ⟨.exited 0, usage, [], s.site.files, none⟩

/-- Runs a command line, read in a given way. -/
def run (read : Variables → List Text → Option Request) (s : Surroundings) (words : List Text) : Outcome :=
  match read s.vars words with
  | some request => answer s request
  | none => ⟨.exited usageCode, [], [], s.site.files, none⟩

end DependencyAudit.Command
