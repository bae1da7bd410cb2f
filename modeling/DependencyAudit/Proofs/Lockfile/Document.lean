import DependencyAudit.FileKind
import DependencyAudit.Lockfile
import DependencyAudit.Proofs.Lockfile.Rows

namespace DependencyAudit

/-- Blanks within a row. -/
structure Text.IsGap (t : Text) : Prop where
  ne : t ≠ []
  blank : ∀ c ∈ t, Text.isBlank c = true
  no_feed : '\n' ∉ t

namespace Lockfile

/-- What stands around a specifier. -/
inductive Quotation where
  | none
  | single
  | double
deriving DecidableEq

def Quotation.mark : Quotation → Text
  | .none => []
  | .single => ['\'']
  | .double => ['"']

/-- A package with the range of versions asked for. -/
structure Specifier where
  quotation : Quotation
  name : Text
  range : Text
  name_ne : name ≠ []
  name_solid : ∀ c ∈ name, Text.isBlank c = false
  name_plain : ∀ c ∈ name, c ≠ ',' ∧ c ≠ '"' ∧ c ≠ '\''
  range_plain : ∀ c ∈ range, c ≠ ',' ∧ c ≠ '@' ∧ c ≠ '\n'

def Specifier.text (s : Specifier) : Text := s.quotation.mark ++ (s.name ++ '@' :: s.range) ++ s.quotation.mark

/-- A key with its value on an indented line, which does not end like a header. -/
structure Pair where
  indent : Text
  key : Text
  gap : Text
  value : Text
  indent_gap : Text.IsGap indent
  key_ne : key ≠ []
  key_solid : ∀ c ∈ key, Text.isBlank c = false
  gap_gap : Text.IsGap gap
  value_solid : ∃ c r, value = c :: r ∧ Text.isBlank c = false
  value_row : Text.IsRow value
  value_closed : (Text.trimRight value).getLast? ≠ some ':'

def Pair.line (p : Pair) : Text := p.indent ++ (p.key ++ (p.gap ++ p.value))

/-- An attribute of a block other than its version. -/
structure Attribute extends Pair where
  key_other : key ≠ "version".toList

/-- A part of a block that lists packages with ranges; a package may be called version. -/
structure Part where
  name : Text
  pairs : List Pair
  name_plain : ∀ c ∈ name, c ≠ ',' ∧ c ≠ '\n'

def Part.header (p : Part) : Text := "  ".toList ++ (p.name ++ [':'])

inductive Item where
  | attr (a : Attribute)
  | part (p : Part)

def Item.lines : Item → List Text
  | .attr a => [a.line]
  | .part p => p.header :: p.pairs.map Pair.line

/-- What a lockfile says of the packages that one header names. -/
structure Block where
  first : Specifier
  others : List Specifier
  version : Text
  items : List Item
  no_comment : first.text.head? ≠ some '#'
  version_ne : version ≠ []
  version_plain : ∀ c ∈ version, c ≠ '"' ∧ c ≠ '\n'

namespace Block

def specifiers (b : Block) : List Specifier := b.first :: b.others

def header (b : Block) : Text := Text.joinWith ", " (b.specifiers.map Specifier.text) ++ [':']

def versionLine (b : Block) : Text := "  version \"".toList ++ (b.version ++ ['"'])

def lines (b : Block) : List Text := b.header :: b.versionLine :: b.items.flatMap Item.lines

/-- The finding for a package that the header names. -/
def finding (b : Block) (file : Path) (s : Specifier) : Finding :=
  ⟨file, s.name, b.version, FileKind.lockfile.fileName, none, s.name_ne, b.version_ne⟩

/-- A finding for every specifier of a package that is listed at the version of the block. -/
def findings (b : Block) (w : Watchlist) (file : Path) : List Finding :=
  (b.specifiers.filter fun s => w.flags s.name b.version).map (b.finding file)

end Block

inductive Piece where
  | comment (text : Text) (row : Text.IsRow ('#' :: text))
  | blank (text : Text) (blank : Text.isBlankLine text = true) (row : Text.IsRow text)
  | block (b : Block)

namespace Piece

def lines : Piece → List Text
  | .comment text _ => ['#' :: text]
  | .blank text _ _ => [text]
  | .block b => b.lines

def block? : Piece → Option Block
  | .block b => some b
  | _ => none

end Piece

/-- A lockfile as it is written: comments, blank lines and blocks. -/
structure Document where
  pieces : List Piece

namespace Document

def blocks (d : Document) : List Block := d.pieces.filterMap Piece.block?

/-- The text of a document, whichever line breaks it is written with. -/
def text (d : Document) (paired : Nat → Bool) : Text := Text.ofRows paired (d.pieces.flatMap Piece.lines)

/-- A block with a dependency on a package called version. -/
example :
    let dependency : Pair := ⟨"    ".toList, "version".toList, " ".toList, "\"^1.0.0\"".toList,
      ⟨by simp, by simp [Text.isBlank], by simp⟩, by simp, by simp [Text.isBlank],
      ⟨by simp, by simp [Text.isBlank], by simp⟩, ⟨'"', "^1.0.0\"".toList, rfl, rfl⟩, ⟨by simp, by simp⟩, by decide⟩
    let quoted : Specifier := ⟨.double, "multi".toList, "^1.0.0".toList, by simp, by simp [Text.isBlank], by simp, by simp⟩
    let bare : Specifier := ⟨.none, "multi".toList, "~1.0.0".toList, by simp, by simp [Text.isBlank], by simp, by simp⟩
    let block : Block := ⟨quoted, [bare], "1.0.0".toList, [.part ⟨"dependencies".toList, [dependency], by simp⟩],
      by decide, by simp, by simp⟩
    text ⟨[.block block, .blank [] rfl ⟨by simp, by simp⟩]⟩ (fun _ => false) =
      "\"multi@^1.0.0\", multi@~1.0.0:\n  version \"1.0.0\"\n  dependencies:\n    version \"^1.0.0\"\n".toList := by
  rfl

end Document

end Lockfile

end DependencyAudit
