import DependencyAudit.FileSystem.Basic
import DependencyAudit.Proofs.Breaks
import DependencyAudit.Proofs.Lockfile.Decoding
import DependencyAudit.Proofs.Lockfile.LineEnds
import DependencyAudit.Proofs.Utf8

namespace DependencyAudit

namespace Text

/-- The line breaks that files are written with. -/
def breaks : List Text := [['\n'], ['\r', '\n'], ['\r']]

theorem unifyBreaks_break {b t : Text} (h : b ∈ breaks) (apart : t.head? ≠ some '\n') :
    unifyBreaks (b ++ t) = '\n' :: unifyBreaks t := by
  simp only [breaks, List.mem_cons, List.not_mem_nil, or_false] at h
  rcases h with rfl | rfl | rfl
  · rfl
  · rfl
  · apply unifyBreaks_return
    rintro s rfl
    exact apart rfl

theorem splitOn_joinWith_feed {ls : List Text} (ne : ls ≠ []) (h : ∀ l ∈ ls, '\n' ∉ l) :
    (joinWith "\n" ls).splitOn '\n' = ls :=
  List.splitOn_intercalate '\n' h ne

end Text

namespace Lockfile

/-- A package at the version that a lockfile resolves a range of it to, in an entry without quotation marks. -/
structure Resolution where
  name : Text
  range : Text
  version : Text
  name_ne : name ≠ []
  name_solid : ∀ c ∈ name, Text.isBlank c = false
  name_plain : ∀ c ∈ name, c ≠ ',' ∧ c ≠ '"' ∧ c ≠ '\''
  no_comment : name.head? ≠ some '#'
  range_plain : ∀ c ∈ range, c ≠ ',' ∧ c ≠ '@' ∧ c ≠ '\n' ∧ c ≠ '\r'
  version_ne : version ≠ []
  version_plain : ∀ c ∈ version, c ≠ '"' ∧ c ≠ '\n' ∧ c ≠ '\r'

namespace Resolution

variable (e : Resolution)

def header : Text := e.name ++ '@' :: (e.range ++ [':'])

def versionLine : Text := "  version \"".toList ++ (e.version ++ ['"'])

/-- The entry as a file may hold it: with any break between its lines, and with one at its end or with none. -/
def Written (t : Text) : Prop :=
  ∃ b ∈ Text.breaks, ∃ last ∈ [] :: Text.breaks, t = e.header ++ (b ++ (e.versionLine ++ last))

def block : Block where
  first := ⟨.none, e.name, e.range, e.name_ne, e.name_solid, e.name_plain, fun c hc =>
    ⟨(e.range_plain c hc).1, (e.range_plain c hc).2.1, (e.range_plain c hc).2.2.1⟩⟩
  others := []
  version := e.version
  items := []
  no_comment := by
    obtain ⟨c, r, named⟩ := List.exists_cons_of_ne_nil e.name_ne
    have first := e.no_comment
    simp only [Specifier.text, Quotation.mark, List.nil_append, List.append_nil]
    rw [named] at first ⊢
    exact first
  version_ne := e.version_ne
  version_plain c hc := ⟨(e.version_plain c hc).1, (e.version_plain c hc).2.1⟩

theorem header_block : e.block.header = e.header := by
  simp [Block.header, Block.specifiers, block, Specifier.text, Quotation.mark, header, Text.joinWith]

theorem lines_block : e.block.lines = [e.header, e.versionLine] := by
  rw [Block.lines, header_block]
  rfl

theorem feed_not_mem_lines : ∀ l ∈ [e.header, e.versionLine], '\n' ∉ l := by
  rw [← e.lines_block]
  intro l hl
  exact (Block.isRow_of_mem_lines hl).no_feed

theorem mentions_lines : mentions [] [e.header, e.versionLine] = [⟨e.name, e.version, none⟩] := by
  rw [← e.lines_block, Block.mentions_lines]
  rfl

theorem return_not_mem_header : '\r' ∉ e.header := by
  intro mem
  rcases List.mem_append.1 mem with mem | mem
  · have solid := e.name_solid _ mem
    cases solid
  · rcases List.mem_cons.1 mem with same | mem
    · cases same
    · rcases List.mem_append.1 mem with mem | mem
      · exact (e.range_plain _ mem).2.2.2 rfl
      · exact absurd mem (by decide)

theorem return_not_mem_versionLine : '\r' ∉ e.versionLine := by
  intro mem
  rcases List.mem_append.1 mem with mem | mem
  · exact absurd mem (by decide)
  · rcases List.mem_append.1 mem with mem | mem
    · exact (e.version_plain _ mem).2.2 rfl
    · exact absurd mem (by decide)

variable {e}

/-- Whatever breaks it was written with, the entry is read as one package at its version. -/
theorem Written.mentions {t : Text} (h : e.Written t) :
    Lockfile.mentions [] ((Text.unifyBreaks t).splitOn '\n') = [⟨e.name, e.version, none⟩] := by
  obtain ⟨b, hb, last, hlast, rfl⟩ := h
  have apart : (e.versionLine ++ last).head? ≠ some '\n' := by
    have starts : (e.versionLine ++ last).head? = some ' ' := rfl
    rw [starts]
    decide
  have unified : Text.unifyBreaks (e.header ++ (b ++ (e.versionLine ++ last))) =
      e.header ++ '\n' :: (e.versionLine ++ Text.unifyBreaks last) := by
    rw [Text.unifyBreaks_append e.return_not_mem_header, Text.unifyBreaks_break hb apart,
      Text.unifyBreaks_append e.return_not_mem_versionLine]
  rcases List.mem_cons.1 hlast with rfl | ended
  · have joined : e.header ++ '\n' :: (e.versionLine ++ Text.unifyBreaks []) =
        Text.joinWith "\n" [e.header, e.versionLine] := by
      simp [Text.joinWith, Text.unifyBreaks]
    rw [unified, joined, Text.splitOn_joinWith_feed (List.cons_ne_nil _ _) e.feed_not_mem_lines, e.mentions_lines]
  · have feed : Text.unifyBreaks last = ['\n'] := by
      have alone := Text.unifyBreaks_break ended (t := []) (by simp)
      rwa [List.append_nil] at alone
    have joined : e.header ++ '\n' :: (e.versionLine ++ Text.unifyBreaks last) =
        Text.joinWith "\n" ([e.header, e.versionLine] ++ [[]]) := by
      simp [Text.joinWith, feed]
    have ne : [e.header, e.versionLine] ++ [[]] ≠ [] := List.cons_ne_nil _ _
    have no_feed : ∀ l ∈ [e.header, e.versionLine] ++ [[]], '\n' ∉ l :=
      List.forall_mem_append.2 ⟨e.feed_not_mem_lines, List.forall_mem_singleton.2 List.not_mem_nil⟩
    rw [unified, joined, Text.splitOn_joinWith_feed ne no_feed, mentions_append, e.mentions_lines,
      Lockfile.mentions, Piece.read_blank rfl]
    rfl

/-- What is found in the entry. -/
def findings (e : Resolution) (w : Watchlist) (file : Path) : List Finding :=
  if w.flags e.name e.version then [e.block.finding file e.block.first] else []

theorem report_mention (e : Resolution) (w : Watchlist) (file : Path) :
    Mention.report w file FileKind.lockfile.fileName [⟨e.name, e.version, none⟩] = .ok (e.findings w file) := by
  rw [Mention.report_eq_ok, List.filter_cons, findings, Mention.isListed]
  split
  · exact .cons (e.block.toFinding_specifier file e.block.first) .nil
  · exact .nil

/-- Read back from a file, the entry makes a finding exactly if its package is listed at its version. -/
theorem Written.parse {t : Text} (h : e.Written t) (w : Watchlist) (file : Path) :
    (FileSystem.textOf (Utf8.encode t)).toOption.map (Parser.lockfile.parse w file) =
      some (.ok (e.findings w file)) := by
  rw [FileSystem.textOf, Utf8.decode_encode]
  refine congrArg some ?_
  rw [Parser.parse_eq_report_feeds, h.mentions]
  exact e.report_mention w file

end Resolution

end Lockfile

end DependencyAudit
