import Mathlib.Data.Fintype.EquivFin
import DependencyAudit.Proofs.Lockfile.LookBack
import DependencyAudit.Proofs.Lockfile.Resolution

namespace DependencyAudit

namespace Text

/-- A text with a line put in before the line at a place, or behind its last line. -/
def insertLine (content : Text) (i : Nat) (line : Text) : Text :=
  joinWith "\n" ((content.splitOn '\n').insertIdx i line)

theorem splitOn_insertLine {line content : Text} {i : Nat} (one : '\n' ∉ line)
    (place : i ≤ (content.splitOn '\n').length) :
    (content.insertLine i line).splitOn '\n' = (content.splitOn '\n').insertIdx i line := by
  apply splitOn_joinWith_feed
  · exact List.ne_nil_of_mem ((List.mem_insertIdx place).2 (.inl rfl))
  · intro l hl
    rcases (List.mem_insertIdx place).1 hl with rfl | hl
    · exact one
    · exact not_mem_of_mem_splitOn hl

end Text

namespace Lockfile

/-- A comment is taken for a header exactly if it is indented and ends in a colon. -/
theorem IsComment.header?_eq_none {line : Text} (h : IsComment line) :
    header? line = none ↔ line.head? = some '#' ∨ (Text.trimRight line).getLast? ≠ some ':' := by
  constructor
  · intro header
    by_contra other
    obtain ⟨indented, colon⟩ := not_or.1 other
    rw [not_not] at colon
    -- The blank that the line starts with is not the colon that it ends in.
    have long : 2 ≤ (Text.trimRight line).length := by
      have kept : Text.trimRight line <+: line := List.rdropWhile_prefix Text.isBlank line
      obtain ⟨t, trimmed⟩ := List.getLast?_eq_some_iff.1 colon
      cases t with
      | nil =>
        rw [trimmed] at kept
        obtain ⟨r, rfl⟩ := kept
        rw [IsComment, List.nil_append, List.singleton_append, Text.trimLeft_cons rfl] at h
        cases h
      | cons c t =>
        rw [trimmed]
        simp
    rw [header?, if_pos ⟨indented, colon, long⟩] at header
    cases header
  · rintro (comment | open_end)
    · rw [header?]
      apply if_neg
      rintro ⟨entry, _⟩
      exact entry comment
    · exact header?_of_not_colon open_end

theorem mentions_insertIdx {line : Text} (silent : ∀ carried, Line.read carried line = .other)
    (carried ls : List Text) (i : Nat) : mentions carried (ls.insertIdx i line) = mentions carried ls := by
  have first (carried rest : List Text) : mentions carried (line :: rest) = mentions carried rest := by
    rw [mentions, silent]
    rfl
  induction ls generalizing carried i with
  | nil =>
    cases i with
    | zero => exact first carried []
    | succ i => rfl
  | cons l ls ih =>
    cases i with
    | zero => exact first carried (l :: ls)
    | succ i => rw [List.insertIdx_succ_cons, mentions, mentions, ih]

/-- A list of one package at version 1. -/
def soleList (name : Text) : Watchlist := Watchlist.ofRecords [⟨name, "1".toList⟩]

theorem flags_soleList {name n : Text} : (soleList name).flags n "1".toList = true ↔ n = name := by
  rw [soleList, Watchlist.flags_ofRecords]
  simp [Record.key, eq_comm]

/-- A header between the lines of an entry takes the version over. -/
theorem mentions_header_between {line : Text} {names : List Text} (header : header? line = some names) (e : Resolution) :
    mentions [] ([e.header, e.versionLine].insertIdx 1 line) = names.map fun n => ⟨n, e.version, none⟩ := by
  obtain ⟨versionHeader, bare, version⟩ := e.block.versionLine_rules
  have alone : Line.alone e.block.versionLine = .version e.version := by
    simp only [Line.alone, versionHeader, bare, version]
    rfl
  have inserted : [e.header, e.versionLine].insertIdx 1 line = [e.header, line, e.block.versionLine] := rfl
  rw [inserted, ← e.header_block, mentions, Line.read_header e.block.header?_header, mentions, Line.read_header header,
    mentions, Line.mentions_read, alone]
  simp [mentions, Line.mentions, Line.carry, Line.resolved]

/-- An entry of a package at version 1; its name is as long as it takes. -/
def soleEntry (k : Nat) : Resolution where
  name := List.replicate (k + 1) 'a'
  range := "1".toList
  version := "1".toList
  name_ne := by simp
  name_solid := by simp [Text.isBlank]
  name_plain := by simp
  no_comment := by simp [List.replicate_succ]
  range_plain := by simp
  version_ne := by simp
  version_plain := by simp

end Lockfile

namespace Parser

open Lockfile

/-- A header that is put between the lines of an entry costs its finding. -/
theorem exists_parse_ne_of_header {line : Text} {names : List Text} (one : '\n' ∉ line)
    (header : header? line = some names) :
    ∃ (w : Watchlist) (file : Path) (content : Text),
      1 ≤ (content.splitOn '\n').length ∧
      lockfile.parse w file (content.insertLine 1 line) ≠ lockfile.parse w file content := by
  -- No name in the header is as long as the one of the entry.
  obtain ⟨k, hk⟩ := Infinite.exists_notMem_finset (names.map fun n => n.length - 1).toFinset
  let e := soleEntry k
  have fresh : e.name ∉ names := by
    intro mem
    apply hk
    rw [List.mem_toFinset]
    exact List.mem_map.2 ⟨_, mem, by simp [e, soleEntry]⟩
  let content := Text.joinWith "\n" [e.header, e.versionLine]
  have split : content.splitOn '\n' = [e.header, e.versionLine] :=
    Text.splitOn_joinWith_feed (List.cons_ne_nil _ _) e.feed_not_mem_lines
  have place : 1 ≤ (content.splitOn '\n').length := by
    rw [split]
    exact List.length_pos_of_ne_nil (List.cons_ne_nil _ _)
  refine ⟨soleList e.name, Path.here, content, place, ?_⟩
  have lost : Mention.report (soleList e.name) Path.here FileKind.lockfile.fileName
      (names.map fun n => ⟨n, e.version, none⟩) = .ok [] := by
    have silent : (names.map fun n => (⟨n, e.version, none⟩ : Mention)).filter
        (Mention.isListed (soleList e.name)) = [] := by
      apply List.filter_eq_nil_iff.2
      intro m hm listed
      obtain ⟨n, hn, rfl⟩ := List.mem_map.1 hm
      have same : n = e.name := flags_soleList.1 listed
      exact fresh (same ▸ hn)
    rw [Mention.report_eq_ok, silent]
    exact .nil
  have found : e.findings (soleList e.name) Path.here ≠ [] := by
    have listed : (soleList e.name).flags e.name e.version = true := flags_soleList.2 rfl
    rw [Resolution.findings, if_pos listed]
    exact List.cons_ne_nil _ _
  rw [parse_eq_report_feeds, parse_eq_report_feeds, Text.splitOn_insertLine one place, split, e.mentions_lines,
    mentions_header_between header, lost, e.report_mention]
  intro same
  exact found (Except.ok.inj same).symm

/-- A comment can be put in anywhere without a change exactly if it is not indented or does not end in a colon. -/
theorem parse_comment_iff {line : Text} (comment : IsComment line) (one : '\n' ∉ line) :
    (∀ (w : Watchlist) (file : Path) (content : Text) (i : Nat), i ≤ (content.splitOn '\n').length →
      lockfile.parse w file (content.insertLine i line) = lockfile.parse w file content) ↔
    line.head? = some '#' ∨ (Text.trimRight line).getLast? ≠ some ':' := by
  rw [← comment.header?_eq_none]
  constructor
  · intro inert
    cases header : header? line with
    | none => rfl
    | some names =>
      obtain ⟨w, file, content, place, other⟩ := exists_parse_ne_of_header one header
      exact absurd (inert w file content 1 place) other
  · intro header w file content i place
    rw [parse_eq_report_feeds, parse_eq_report_feeds, Text.splitOn_insertLine one place,
      mentions_insertIdx (comment.read header)]

theorem parse_comment_iff_note :
    IsComment "  # note".toList ∧ '\n' ∉ "  # note".toList ∧
      ∀ (w : Watchlist) (file : Path) (content : Text) (i : Nat), i ≤ (content.splitOn '\n').length →
        lockfile.parse w file (content.insertLine i "  # note".toList) =
          lockfile.parse w file content := by
  have comment : IsComment "  # note".toList := rfl
  have one : '\n' ∉ "  # note".toList := by decide
  exact ⟨comment, one, (parse_comment_iff comment one).2 (.inr (by decide))⟩

/-- Indented and with a colon at its end, a comment between the lines of an entry hides what the entry resolves. -/
theorem parse_comment_not_inert :
    let file : Path := ⟨.root, ["p".toList, "yarn.lock".toList]⟩
    let line : Text := "  # note:".toList
    let content : Text := "lodash@^1:\n  version \"1\"\n".toList
    let found (content : Text) : Option (List (Text × Text)) :=
      (lockfile.parse (Watchlist.parse "lodash: 1".toList) file content).toOption.map fun fs =>
        fs.map fun f => (f.name, f.version)
    IsComment line ∧ '\n' ∉ line ∧ 1 ≤ (content.splitOn '\n').length ∧
      found content = some [("lodash".toList, "1".toList)] ∧ found (content.insertLine 1 line) = some [] := by
  refine ⟨rfl, ?_⟩
  decide +kernel

end Parser

end DependencyAudit
