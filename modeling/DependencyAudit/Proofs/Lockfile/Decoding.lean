import DependencyAudit.Proofs.Lockfile.Lines
import DependencyAudit.Proofs.Lookup
import DependencyAudit.Proofs.Mention.Parser

namespace DependencyAudit.Lockfile

/-- The packages carried on behind some lines. -/
def settle (carried : List Text) (ls : List Text) : List Text :=
  ls.foldl (fun names l => (Line.read names l).carry names) carried

theorem mentions_append (carried ls ls' : List Text) :
    mentions carried (ls ++ ls') = mentions carried ls ++ mentions (settle carried ls) ls' := by
  induction ls generalizing carried with
  | nil => rfl
  | cons l ls ih =>
    rw [List.cons_append, mentions, ih, mentions, List.append_assoc]
    rfl

/-- Lines of keys and values state versions of the packages carried only, and carry these on. -/
theorem name_of_mem_mentions_pairs {carried : List Text} {ps : List Pair} {m : Mention}
    (h : m ∈ mentions carried (ps.map Pair.line)) : m.name ∈ carried := by
  induction ps with
  | nil => exact absurd h List.not_mem_nil
  | cons p ps ih =>
    rw [List.map_cons, mentions] at h
    rcases p.read_line carried with read | ⟨v, read⟩
    · rw [read] at h
      exact ih h
    · rw [read] at h
      rcases List.mem_append.1 h with h | h
      · obtain ⟨n, hn, rfl⟩ := List.mem_map.1 h
        exact hn
      · exact ih h

/-- Whatever is carried, an item states no listed version. -/
theorem Item.mentions_unlisted (i : Item) (carried : List Text) (list : Text) :
    ∀ m ∈ mentions carried i.lines, m.isListed (Watchlist.parse list) = false := by
  intro m hm
  cases i with
  | attr a =>
    rw [lines, mentions, a.read_line] at hm
    exact absurd hm List.not_mem_nil
  | part p =>
    obtain ⟨n, named⟩ := p.header?_header
    rw [lines, mentions, Line.read_header named] at hm
    have name : m.name ∈ [' ' :: n] := name_of_mem_mentions_pairs hm
    rw [Mention.isListed, List.mem_singleton.1 name]
    exact Watchlist.not_flags_blank list rfl n m.version

theorem mentions_items_unlisted (is : List Item) (carried : List Text) (list : Text) :
    ∀ m ∈ mentions carried (is.flatMap Item.lines), m.isListed (Watchlist.parse list) = false := by
  induction is generalizing carried with
  | nil =>
    intro m hm
    exact absurd hm List.not_mem_nil
  | cons i is ih =>
    intro m hm
    -- Parts change what is carried, so the items behind one are read on from other packages.
    rw [List.flatMap_cons, mentions_append] at hm
    rcases List.mem_append.1 hm with hm | hm
    · exact i.mentions_unlisted carried list m hm
    · exact ih _ m hm

namespace Block

/-- A block states its version for the packages of its header, and then no listed version. -/
theorem mentions_lines (b : Block) (carried : List Text) :
    mentions carried b.lines = (b.specifiers.map fun s => ⟨s.name, b.version, none⟩) ++
      mentions (b.specifiers.map (·.name)) (b.items.flatMap Item.lines) := by
  obtain ⟨header, bare, version⟩ := b.versionLine_rules
  have names : b.specifiers.map (·.name) ≠ [] := List.cons_ne_nil _ _
  rw [lines, mentions, Line.read_header b.header?_header, mentions]
  simp only [Line.carry]
  rw [Line.read_version names header bare version]
  simp only [Line.mentions, List.nil_append, List.map_map]
  rfl

theorem toFinding_specifier (b : Block) (file : Path) (s : Specifier) :
    (⟨s.name, b.version, none⟩ : Mention).toFinding file FileKind.lockfile.fileName = .ok (b.finding file s) :=
  Mention.toFinding_eq_ok.2 ⟨rfl, rfl, rfl, rfl, rfl⟩

theorem report_lines (b : Block) (carried : List Text) (list : Text) (file : Path) :
    Mention.report (Watchlist.parse list) file FileKind.lockfile.fileName (mentions carried b.lines) =
      .ok (b.findings (Watchlist.parse list) file) := by
  have silent : (mentions (b.specifiers.map (·.name)) (b.items.flatMap Item.lines)).filter
      (Mention.isListed (Watchlist.parse list)) = [] := by
    apply List.filter_eq_nil_iff.2
    intro m hm
    rw [mentions_items_unlisted b.items _ list m hm]
    exact Bool.false_ne_true
  rw [Mention.report_eq_ok, b.mentions_lines, List.filter_append, silent, List.append_nil, List.filter_map, findings,
    List.forall₂_map_left_iff, List.forall₂_map_right_iff]
  apply List.forall₂_same.2
  intro s _
  exact b.toFinding_specifier file s

end Block

namespace Piece

/-- What a piece of a document makes a reader report. -/
def findings (p : Piece) (w : Watchlist) (file : Path) : List Finding :=
  match p.block? with
  | some b => b.findings w file
  | none => []

theorem read_comment (text : Text) (carried : List Text) : Line.read carried ('#' :: text) = .other := by
  have comment : IsComment ('#' :: text) := rfl
  have header : header? ('#' :: text) = none := by
    rw [header?]
    apply if_neg
    rintro ⟨entry, _⟩
    exact entry rfl
  exact comment.read header carried

theorem read_blank {text : Text} (h : Text.isBlankLine text = true) (carried : List Text) :
    Line.read carried text = .blank := by
  have header : header? text = none := by
    apply header?_of_not_colon
    rw [Text.trimRight_of_blank h]
    exact nofun
  have bare : bareEntry? text = none := by
    apply not_bare_of_not_form
    rw [Text.trim, Text.trimLeft_of_blank h]
    rfl
  have version : version? text = none := by
    rw [version?, Text.trimLeft_of_blank h]
    rfl
  rw [Line.read_other header bare version, h]
  rfl

theorem report_lines (p : Piece) (carried : List Text) (list : Text) (file : Path) :
    Mention.report (Watchlist.parse list) file FileKind.lockfile.fileName (mentions carried p.lines) =
      .ok (p.findings (Watchlist.parse list) file) := by
  cases p with
  | comment text row =>
    rw [lines, mentions, read_comment]
    rfl
  | blank text blank row =>
    rw [lines, mentions, read_blank blank]
    rfl
  | block b => exact b.report_lines carried list file

end Piece

theorem report_pieces (ps : List Piece) (carried : List Text) (list : Text) (file : Path) :
    Mention.report (Watchlist.parse list) file FileKind.lockfile.fileName
        (mentions carried (ps.flatMap Piece.lines)) =
      .ok (ps.flatMap fun p => p.findings (Watchlist.parse list) file) := by
  induction ps generalizing carried with
  | nil => rfl
  | cons p ps ih =>
    rw [List.flatMap_cons, mentions_append, Mention.report_append, p.report_lines, ih]
    rfl

theorem isRow_concat {t : Text} {c : Char} (h : '\n' ∉ t) (feed : c ≠ '\n') (ret : c ≠ '\r') :
    Text.IsRow (t ++ [c]) := by
  constructor
  · intro mem
    rcases List.mem_append.1 mem with mem | mem
    · exact h mem
    · exact feed (List.mem_singleton.1 mem).symm
  · rw [List.getLast?_concat]
    intro last
    exact ret (Option.some.inj last)

theorem Pair.isRow_line (p : Pair) : Text.IsRow p.line := by
  obtain ⟨c, r, stated, -⟩ := p.value_solid
  have ne : p.value ≠ [] := stated ▸ List.cons_ne_nil c r
  have key : '\n' ∉ p.key := by
    intro mem
    have solid := p.key_solid _ mem
    cases solid
  constructor
  · simp only [line, List.mem_append, not_or]
    exact ⟨p.indent_gap.no_feed, key, p.gap_gap.no_feed, p.value_row.no_feed⟩
  · rw [line, ← List.append_assoc, ← List.append_assoc, List.getLast?_append_of_ne_nil _ ne]
    exact p.value_row.no_return

theorem Part.isRow_header (p : Part) : Text.IsRow p.header := by
  have name : '\n' ∉ "  ".toList ++ p.name := by
    intro mem
    rcases List.mem_append.1 mem with mem | mem
    · exact absurd mem (by decide)
    · exact (p.name_plain _ mem).2 rfl
  rw [header_concat]
  exact isRow_concat name (by decide) (by decide)

theorem Item.isRow_of_mem_lines {i : Item} {l : Text} (h : l ∈ i.lines) : Text.IsRow l := by
  cases i with
  | attr a =>
    obtain rfl := List.mem_singleton.1 h
    exact a.isRow_line
  | part p =>
    rcases List.mem_cons.1 h with rfl | h
    · exact p.isRow_header
    · obtain ⟨q, _, rfl⟩ := List.mem_map.1 h
      exact q.isRow_line

theorem Block.isRow_of_mem_lines {b : Block} {l : Text} (h : l ∈ b.lines) : Text.IsRow l := by
  have specifiers : '\n' ∉ Text.joinWith ", " (b.specifiers.map Specifier.text) := by
    intro mem
    rcases Text.mem_joinWith mem with ⟨t, ht, mem⟩ | mem
    · obtain ⟨s, _, rfl⟩ := List.mem_map.1 ht
      exact s.feed_not_mem_text mem
    · exact absurd mem (by decide)
  have version : '\n' ∉ "  version \"".toList ++ b.version := by
    intro mem
    rcases List.mem_append.1 mem with mem | mem
    · exact absurd mem (by decide)
    · exact (b.version_plain _ mem).2 rfl
  rw [lines, List.mem_cons, List.mem_cons] at h
  rcases h with rfl | rfl | h
  · exact isRow_concat specifiers (by decide) (by decide)
  · rw [versionLine_concat]
    exact isRow_concat version (by decide) (by decide)
  · obtain ⟨i, _, h⟩ := List.mem_flatMap.1 h
    exact Item.isRow_of_mem_lines h

theorem Piece.isRow_of_mem_lines {p : Piece} {l : Text} (h : l ∈ p.lines) : Text.IsRow l := by
  cases p with
  | comment text row =>
    obtain rfl := List.mem_singleton.1 h
    exact row
  | blank text blank row =>
    obtain rfl := List.mem_singleton.1 h
    exact row
  | block b => exact Block.isRow_of_mem_lines h

namespace Document

/-- The lines of a document are read back from its text; an empty document is one empty line. -/
theorem rows_text (d : Document) (paired : Nat → Bool) :
    Text.rows (d.text paired) = d.pieces.flatMap Piece.lines ∨
      d.pieces.flatMap Piece.lines = [] ∧ Text.rows (d.text paired) = [[]] := by
  by_cases empty : d.pieces.flatMap Piece.lines = []
  · right
    rw [text, empty]
    exact ⟨rfl, rfl⟩
  · left
    apply Text.rows_ofRows paired empty
    intro l hl
    obtain ⟨p, _, hl⟩ := List.mem_flatMap.1 hl
    exact Piece.isRow_of_mem_lines hl

theorem findings_pieces (d : Document) (w : Watchlist) (file : Path) :
    (d.pieces.flatMap fun p => p.findings w file) = d.blocks.flatMap fun b => b.findings w file := by
  rw [blocks, List.flatMap_def, List.flatMap_def]
  induction d.pieces with
  | nil => rfl
  | cons p ps ih =>
    cases p with
    | comment text row => exact ih
    | blank text blank row => exact ih
    | block b => exact congrArg (b.findings w file ++ ·) ih

/-- A document makes the lockfile's reader report exactly, block by block and specifier by specifier, the packages that
are listed at the version of their block. -/
theorem parse_text (d : Document) (paired : Nat → Bool) (list : Text) (file : Path) :
    Parser.lockfile.parse (Watchlist.parse list) file (d.text paired) =
      .ok (d.blocks.flatMap fun b => b.findings (Watchlist.parse list) file) := by
  have read : mentions [] (Text.rows (d.text paired)) = mentions [] (d.pieces.flatMap Piece.lines) := by
    rcases d.rows_text paired with rows | ⟨empty, rows⟩
    · exact congrArg (mentions []) rows
    · rw [empty]
      exact (congrArg (mentions []) rows).trans rfl
  rw [Parser.lockfile_parse, read, ← d.findings_pieces]
  exact report_pieces d.pieces [] list file

end Document

end DependencyAudit.Lockfile
