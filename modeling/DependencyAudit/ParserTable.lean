import DependencyAudit.FileKind
import DependencyAudit.Lockfile
import DependencyAudit.Manifest

namespace DependencyAudit

/-- A parser for the files of one name, with what it finds in a file's text. -/
structure Parser where
  label : Text
  fileName : Text
  parse : Watchlist → Path → Text → Except FindingError (List Finding)

namespace Parser

def accepts (p : Parser) (file : Path) : Bool := file.name = CodePoint.ofText p.fileName

/-- A parser of the project's own; its findings name the file as their source. -/
def forKind (k : FileKind) (findings : Watchlist → Path → Text → Text → Except FindingError (List Finding)) : Parser :=
  ⟨k.label, k.fileName, fun w file content => findings w file k.fileName content⟩

/-- Manifests are read to a depth of nesting. -/
def manifest (depth : Nat) : Parser := forKind .manifest (Manifest.findings depth)

def lockfile : Parser := forKind .lockfile Lockfile.findings

def ofKind (depth : Nat) : FileKind → Parser
  | .manifest => manifest depth
  | .lockfile => lockfile

end Parser

/-- A parser's place in the table. -/
structure Slot where
  ecosystem : Text
  kind : Text
  parser : Parser

/-- Parsers by ecosystem and kind, both in order of first registration. -/
structure ParserTable where
  slots : List Slot
  ecosystems : List Text

namespace ParserTable

def empty : ParserTable := ⟨[], []⟩

/-- A slot takes the place of one with its ecosystem and kind, or comes last. -/
def place (s : Slot) : List Slot → List Slot
  | [] => [s]
  | t :: ts => if t.ecosystem = s.ecosystem ∧ t.kind = s.kind then s :: ts else t :: place s ts

def register (table : ParserTable) (s : Slot) : ParserTable :=
  ⟨place s table.slots,
    if table.ecosystems.contains s.ecosystem then table.ecosystems else table.ecosystems ++ [s.ecosystem]⟩

def parser? (table : ParserTable) (ecosystem kind : Text) : Option Parser :=
  (table.slots.find? fun s => s.ecosystem = ecosystem ∧ s.kind = kind).map (·.parser)

/-- The first slot whose parser accepts a file. -/
def slotFor? (table : ParserTable) (file : Path) : Option Slot := table.slots.find? (·.parser.accepts file)

def parserFor? (table : ParserTable) (file : Path) : Option Parser := (table.slotFor? file).map (·.parser)

def kinds (table : ParserTable) : List Text := table.slots.map (·.kind)

def fileNames (table : ParserTable) : List Text := table.slots.map (·.parser.fileName)

/-- What the parser for a file finds in its text; nothing if no parser accepts it. -/
def parse (table : ParserTable) (w : Watchlist) (file : Path) (content : Text) :
    Except FindingError (List Finding) :=
  match table.parserFor? file with
  | some p => p.parse w file content
  | none => .ok []

/-- The parsers in use: package manifests, then lockfiles. -/
def standard (depth : Nat) : ParserTable :=
  [⟨"nodejs".toList, "package".toList, Parser.manifest depth⟩,
    ⟨"nodejs".toList, "yarn".toList, Parser.lockfile⟩].foldl register empty

end ParserTable

end DependencyAudit
