import DependencyAudit.Proofs.Lockfile.Rules
import DependencyAudit.Proofs.Lookup
import DependencyAudit.Proofs.Mention.Parser

namespace DependencyAudit

namespace Lockfile

section Return

variable (row : Text)

theorem isBlank_return : Text.isBlank '\r' = true := by decide

theorem header?_concat_return : header? (row ++ ['\r']) = header? row := by
  have trimmed := Text.trimRight_concat_blank isBlank_return row
  cases row with
  | nil => rfl
  | cons c r =>
    rw [header?, header?, trimmed]
    rfl

/-- Only behind a colon does a carriage return make a difference to this rule, and there a line is a header before it
is an entry. -/
theorem bareEntry?_concat_return (header : header? row = none) : bareEntry? (row ++ ['\r']) = bareEntry? row := by
  have trimmed := Text.trim_concat_blank isBlank_return row
  by_cases colon : row.getLast? = some ':'
  · have no_form : isBareForm (Text.trim row) = false := by
      obtain ⟨t, rfl⟩ := List.getLast?_eq_some_iff.1 colon
      cases t with
      | nil => decide
      | cons c t =>
        by_cases comment : c = '#'
        · subst comment
          have written : IsComment ('#' :: t ++ [':']) := by
            rw [IsComment, List.cons_append, Text.trimLeft_cons rfl]
            rfl
          exact written.not_isBareForm
        · have entry : (c :: t).head? ≠ some '#' := fun head => comment (Option.some.inj head)
          rw [header?_concat entry (List.cons_ne_nil c t)] at header
          cases header
    rw [not_bare_of_not_form no_form, not_bare_of_not_form (trimmed ▸ no_form)]
  · have last : (row ++ ['\r']).getLast? ≠ some ':' := by
      rw [List.getLast?_concat]
      decide
    have cut := Text.cutFirst_concat (by decide : '\r' ≠ ':') row
    unfold bareEntry?
    rw [trimmed, cut]
    simp only [ne_eq, last, colon, not_false_eq_true, true_and]
    cases Text.cutFirst ':' row with
    | none => rfl
    | some parts =>
      obtain ⟨before, after⟩ := parts
      cases before <;> rfl

theorem version?_concat_return : version? (row ++ ['\r']) = version? row := by
  cases blank : Text.isBlankLine row with
  | true =>
    have both : Text.isBlankLine (row ++ ['\r']) = true := by rw [Text.isBlankLine_concat isBlank_return, blank]
    rw [version?, version?, Text.trimLeft_of_blank both, Text.trimLeft_of_blank blank]
  | false =>
    apply Option.ext
    intro v
    rw [version?_eq_some, version?_eq_some, Text.trimLeft_concat blank]
    refine and_congr_right fun _ => and_congr_right fun _ => exists_congr fun gap => ?_
    constructor
    · rintro ⟨after, gap_ne, gap_blank, starts⟩
      -- The last character is the return, so that it is not the closing quotation mark.
      cases after using List.reverseRecOn with
      | nil =>
        have last := congrArg List.getLast? starts
        rw [List.getLast?_concat, ← List.cons_append, ← List.append_assoc, ← List.append_assoc,
          List.getLast?_concat] at last
        cases last
      | append_singleton after d =>
        have whole : "version".toList ++ (gap ++ '"' :: (v ++ '"' :: (after ++ [d]))) =
            "version".toList ++ (gap ++ '"' :: (v ++ '"' :: after)) ++ [d] := by simp
        rw [whole] at starts
        exact ⟨after, gap_ne, gap_blank, (List.append_inj' starts rfl).1⟩
    · rintro ⟨after, gap_ne, gap_blank, starts⟩
      refine ⟨after ++ ['\r'], gap_ne, gap_blank, ?_⟩
      rw [starts]
      simp

/-- A carriage return at its end is nothing to a row. -/
theorem Line.read_concat_return (carried : List Text) : read carried (row ++ ['\r']) = read carried row := by
  cases header : header? row with
  | some names => rw [read_header header, read_header (header?_concat_return row ▸ header)]
  | none =>
    rw [read, read, header?_concat_return, header, bareEntry?_concat_return row header, version?_concat_return,
      Text.isBlankLine_concat isBlank_return]

end Return

end Lockfile

namespace Text

/-- A row without the carriage returns at its end. -/
def dropReturns (t : Text) : Text := t.rdropWhile (· = '\r')

theorem dropReturns_cons (c : Char) (t : Text) :
    dropReturns (c :: t) = if dropReturns t = [] then dropReturns [c] else c :: dropReturns t := by
  induction t using List.reverseRecOn with
  | nil => rfl
  | append_singleton t d ih =>
    rw [dropReturns, dropReturns, ← List.cons_append, List.rdropWhile_concat, List.rdropWhile_concat]
    split
    · exact ih
    · simp

theorem dropReturns_cons_congr {s t : Text} (h : dropReturns s = dropReturns t) (c : Char) :
    dropReturns (c :: s) = dropReturns (c :: t) := by
  rw [dropReturns_cons c s, dropReturns_cons c t, h]

/-- Lists of rows that differ in carriage returns at the ends of rows only. -/
def SameRows (rs ss : List Text) : Prop := rs.map dropReturns = ss.map dropReturns

theorem SameRows.cons {s t : Text} {rs ss : List Text} (first : dropReturns s = dropReturns t) (rest : SameRows rs ss) :
    SameRows (s :: rs) (t :: ss) :=
  congrArg₂ List.cons first rest

theorem SameRows.pushFirst {rs ss : List Text} (h : SameRows rs ss) (c : Char) :
    SameRows (pushFirst c rs) (pushFirst c ss) := by
  cases rs with
  | nil =>
    obtain rfl := List.map_eq_nil_iff.1 h.symm
    rfl
  | cons s rs =>
    cases ss with
    | nil => cases h
    | cons t ss =>
      obtain ⟨first, rest⟩ := List.cons.inj h
      exact .cons (dropReturns_cons_congr first c) rest

theorem splitOn_feed (t : Text) : ('\n' :: t).splitOn '\n' = [] :: t.splitOn '\n' := by
  simp [List.splitOn_cons_eq_if_modifyHead]

theorem splitOn_other {c : Char} (h : c ≠ '\n') (t : Text) :
    (c :: t).splitOn '\n' = pushFirst c (t.splitOn '\n') := by
  rw [List.splitOn_cons_eq_if_modifyHead, if_neg (by simpa using h)]
  cases split : t.splitOn '\n' with
  | nil => exact absurd split (List.splitOn_ne_nil '\n' t)
  | cons u us => rfl

/-- Carriage returns apart, rows are what stands between line feeds. -/
theorem sameRows_rows (t : Text) : SameRows (rows t) (t.splitOn '\n') := by
  fun_induction rows t with
  | case1 => rfl
  | case2 t ih =>
    rw [splitOn_other (by decide), splitOn_feed]
    exact .cons rfl ih
  | case3 t _ ih =>
    rw [splitOn_feed]
    exact .cons rfl ih
  | case4 c t _ other ih =>
    rw [splitOn_other other]
    exact ih.pushFirst c

end Text

namespace Lockfile

theorem Line.read_dropReturns (carried : List Text) (row : Text) :
    read carried (Text.dropReturns row) = read carried row := by
  induction row using List.reverseRecOn with
  | nil => rfl
  | append_singleton row c ih =>
    rw [Text.dropReturns, List.rdropWhile_concat]
    split
    · rename_i isReturn
      obtain rfl : c = '\r' := by simpa using isReturn
      rw [read_concat_return]
      exact ih
    · rfl

theorem mentions_dropReturns (carried rows : List Text) :
    mentions carried (rows.map Text.dropReturns) = mentions carried rows := by
  induction rows generalizing carried with
  | nil => rfl
  | cons row rows ih => rw [List.map_cons, mentions, mentions, Line.read_dropReturns, ih]

theorem mentions_congr {carried rs ss : List Text} (h : Text.SameRows rs ss) :
    mentions carried rs = mentions carried ss := by
  rw [← mentions_dropReturns, h, mentions_dropReturns]

end Lockfile

/-- Parsing a lockfile goes by what stands between its line feeds. -/
theorem Parser.parse_eq_report_feeds (w : Watchlist) (file : Path) (content : Text) :
    lockfile.parse w file content = Mention.report w file FileKind.lockfile.fileName
      (Lockfile.mentions [] (content.splitOn '\n')) := by
  rw [lockfile_parse, ← Lockfile.mentions_congr (Text.sameRows_rows content)]

/-- Two texts of which the second has a carriage return more before some line feeds, and one less before others. -/
inductive Text.Rebroken : Text → Text → Prop
  | nil : Rebroken [] []
  | keep (c : Char) {s t : Text} (rest : Rebroken s t) : Rebroken (c :: s) (c :: t)
  | widen {s t : Text} (rest : Rebroken s t) : Rebroken ('\n' :: s) ('\r' :: '\n' :: t)
  | narrow {s t : Text} (rest : Rebroken s t) : Rebroken ('\r' :: '\n' :: s) ('\n' :: t)

theorem Text.Rebroken.append (u : Text) {s t : Text} (h : s.Rebroken t) : Rebroken (u ++ s) (u ++ t) := by
  induction u with
  | nil => exact h
  | cons c u ih => exact .keep c ih

theorem Text.Rebroken.sameRows {s t : Text} (h : Rebroken s t) : SameRows (s.splitOn '\n') (t.splitOn '\n') := by
  induction h with
  | nil => rfl
  | @keep c s t _ ih =>
    by_cases feed : c = '\n'
    · obtain rfl := feed
      rw [splitOn_feed, splitOn_feed]
      exact .cons rfl ih
    · rw [splitOn_other feed, splitOn_other feed]
      exact ih.pushFirst c
  | widen _ ih =>
    rw [splitOn_feed, splitOn_other (by decide), splitOn_feed]
    exact .cons rfl ih
  | narrow _ ih =>
    rw [splitOn_feed, splitOn_other (by decide), splitOn_feed]
    exact .cons rfl ih

/-- Whatever carriage returns a lockfile has, putting further ones before line feeds or taking such away changes neither
the findings nor the failure. -/
theorem Parser.parse_rebroken {s t : Text} (h : s.Rebroken t) (w : Watchlist) (file : Path) :
    lockfile.parse w file t = lockfile.parse w file s := by
  rw [parse_eq_report_feeds, parse_eq_report_feeds, Lockfile.mentions_congr h.sameRows]

theorem Parser.parse_rebroken_lodash :
    let s : Text := "lodash@^1:\n  version \"1\"\r\r\n".toList
    let t : Text := "lodash@^1:\r\n  version \"1\"\r\n".toList
    s.Rebroken t ∧ ∀ (w : Watchlist) (file : Path),
      lockfile.parse w file t = lockfile.parse w file s := by
  intro s t
  have rebroken : s.Rebroken t :=
    .append "lodash@^1:".toList (.widen (.append "  version \"1\"\r".toList (.narrow .nil)))
  exact ⟨rebroken, parse_rebroken rebroken⟩

end DependencyAudit
