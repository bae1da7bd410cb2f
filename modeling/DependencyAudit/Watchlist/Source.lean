import DependencyAudit.Failure
import DependencyAudit.FileSystem.Basic

namespace DependencyAudit

/-- The list that comes with the program. -/
def packagedList : Text :=
  ("# Known-compromised npm package versions.\n" ++
    "# One record per line: <package name>: <version>\n" ++
    "# The last colon on a line separates the name from the version.\n" ++
    "\n" ++
    "# September 2025 maintainer account takeover (chalk/debug)\n" ++
    "ansi-regex: 6.2.1\n" ++
    "ansi-styles: 6.2.2\n" ++
    "chalk: 5.6.1\n" ++
    "debug: 4.4.2\n" ++
    "strip-ansi: 7.1.1\n" ++
    "supports-color: 10.2.1\n" ++
    "wrap-ansi: 9.0.1\n" ++
    "\n" ++
    "# Shai-Hulud worm\n" ++
    "@ctrl/tinycolor: 4.1.1\n" ++
    "@ctrl/tinycolor: 4.1.2\n").toList

/-- Where a watchlist is loaded from when it is not downloaded. -/
inductive ListSource where
  | packaged
  | file (path : Path)
deriving DecidableEq

namespace ListSource

def ofFile? (file : Option Path) : ListSource :=
  match file with
  | some p => .file p
  | none => .packaged

def label : ListSource → Name
  | .packaged => "<default list>".toList
  | .file p => p.text

/-- The list's text; a file that cannot be opened or decoded fails with its path. -/
def text (fs : FileSystem) : ListSource → Except Failure Text
  | .packaged => .ok packagedList
  | .file p =>
    match fs.openFile p.text with
    | .error .nullByte => .error .nullByte
    | .error (.os e) => .error (.listUnreadable p.text (.os e))
    | .ok bytes =>
      match FileSystem.textOf bytes with
      | .error f => .error (.listUnreadable p.text (.undecodable f))
      | .ok t => .ok t

def load (fs : FileSystem) (source : ListSource) : Except Failure Watchlist := (source.text fs).map Watchlist.parse

/-- The note that a list was loaded. -/
def loaded (source : ListSource) (w : Watchlist) : Log.Entry :=
  Log.entry "CompromisedListFile" .debug ["Loaded ".toList, Text.decimal w.versionCount,
    " compromised versions of ".toList, Text.decimal w.packageCount, " packages from ".toList, source.label.spelled]

end ListSource

end DependencyAudit
