import DependencyAudit.Proofs.Lockfile.Decoding
import DependencyAudit.Proofs.Lockfile.LineEnds
import DependencyAudit.Proofs.Lockfile.LookBack

namespace DependencyAudit

/-- Parts put together as one text with a blank line before each further one. -/
inductive Text.Parted : List Text → Text → Prop
  | single (part : Text) : Parted [part] part
  | cons {parts : List Text} {rest gap : Text} (part : Text) (blank : isBlankLine gap = true) (one : '\n' ∉ gap)
      (behind : Parted parts rest) : Parted (part :: parts) (part ++ '\n' :: (gap ++ '\n' :: rest))

namespace Lockfile

theorem settle_dropReturns (carried rows : List Text) :
    settle carried (rows.map Text.dropReturns) = settle carried rows := by
  induction rows generalizing carried with
  | nil => rfl
  | cons row rows ih =>
    rw [List.map_cons, settle, List.foldl_cons, Line.read_dropReturns]
    exact ih _

theorem settle_congr {carried rs ss : List Text} (h : Text.SameRows rs ss) : settle carried rs = settle carried ss := by
  rw [← settle_dropReturns, h, settle_dropReturns]

variable {gap : Text} (blank : Text.isBlankLine gap = true)

include blank

/-- Whatever was carried up to a blank line, nothing is carried on behind it. -/
theorem settle_blank (carried ls : List Text) : settle carried (ls ++ [gap]) = [] := by
  rw [settle, List.foldl_append, List.foldl_cons, Piece.read_blank blank]
  rfl

/-- What stands behind a blank line is read as if nothing stood before it. -/
theorem mentions_blank (carried ls ls' : List Text) :
    mentions carried (ls ++ gap :: ls') = mentions carried ls ++ mentions [] ls' := by
  rw [← List.singleton_append, ← List.append_assoc, mentions_append, settle_blank blank, mentions_append, mentions,
    Piece.read_blank blank]
  simp [mentions, Line.mentions]

variable (one : '\n' ∉ gap)

include one

theorem settle_rows_blank (a : Text) : settle [] (Text.rows (a ++ '\n' :: gap)) = [] := by
  rw [settle_congr (Text.sameRows_rows _), List.splitOn_append_cons_self, List.splitOn_eq_singleton one]
  exact settle_blank blank [] _

theorem mentions_splitOn_blank (a b : Text) :
    mentions [] ((a ++ '\n' :: (gap ++ '\n' :: b)).splitOn '\n') =
      mentions [] (a.splitOn '\n') ++ mentions [] (b.splitOn '\n') := by
  rw [List.splitOn_append_cons_self, List.splitOn_append_cons_self_of_not_mem one, mentions_blank blank]

/-- No package that is named before a blank line is resolved behind it. -/
theorem resolved_rows_blank (a b : Text) :
    resolved [] (Text.rows (a ++ '\n' :: (gap ++ '\n' :: b))) =
      resolved [] (Text.rows a) ++ resolved [] (Text.rows b) := by
  have injective : Function.Injective fun s : Text × Text => (⟨s.1, s.2, none⟩ : Mention) := by
    intro s s' same
    obtain ⟨name, version, -⟩ := Mention.mk.inj same
    exact Prod.ext name version
  apply List.map_injective_iff.2 injective
  rw [List.map_append, ← mentions_eq_resolved, ← mentions_eq_resolved, ← mentions_eq_resolved,
    mentions_congr (Text.sameRows_rows _), mentions_congr (Text.sameRows_rows a),
    mentions_congr (Text.sameRows_rows b), mentions_splitOn_blank blank one]

end Lockfile

namespace Parser

section Parted

variable {w : Watchlist} {file : Path} {parts : List Text} {content : Text}

theorem eq_emptyName_of_parse {e : FindingError} (h : lockfile.parse w file content = .error e) : e = .emptyName := by
  rw [lockfile_parse, Mention.report_eq_error fun m hm => Lockfile.version_ne_nil_of_mem_mentions hm] at h
  exact h.1

/-- The parts of a lockfile between blank lines are parsed one by one. -/
theorem parse_parted (h : Text.Parted parts content) :
    lockfile.parse w file content = (parts.mapM (lockfile.parse w file)).map List.flatten := by
  induction h with
  | single part =>
    rw [List.mapM_cons, List.mapM_nil]
    cases lockfile.parse w file part with
    | error e => rfl
    | ok fs => exact congrArg Except.ok (List.append_nil fs).symm
  | @cons parts rest gap part blank one behind ih =>
    rw [List.mapM_cons, parse_eq_report_feeds, Lockfile.mentions_splitOn_blank blank one, Mention.report_append,
      ← parse_eq_report_feeds, ← parse_eq_report_feeds, ih]
    cases lockfile.parse w file part with
    | error e => rfl
    | ok fs => cases parts.mapM (lockfile.parse w file) <;> rfl

theorem parse_parted_eq_error (h : Text.Parted parts content) :
    (∃ e, lockfile.parse w file content = .error e) ↔
      ∃ part ∈ parts, ∃ e, lockfile.parse w file part = .error e := by
  have alike : ∀ part ∈ parts, ∀ e, lockfile.parse w file part = .error e → e = .emptyName :=
    fun part _ e failed => eq_emptyName_of_parse failed
  have whole (e : FindingError) : lockfile.parse w file content = .error e ↔
      parts.mapM (lockfile.parse w file) = .error e := by
    rw [parse_parted h]
    cases parts.mapM (lockfile.parse w file) <;> simp [Except.map]
  simp only [whole, mapM_eq_error alike]
  constructor
  · rintro ⟨_, rfl, part, mem, failed⟩
    exact ⟨part, mem, _, failed⟩
  · rintro ⟨part, mem, e, failed⟩
    obtain rfl := alike part mem e failed
    exact ⟨_, rfl, part, mem, failed⟩

/-- Where the parts give findings, the whole gives them in the order of the parts. -/
theorem parse_parted_eq_ok (h : Text.Parted parts content) {found : Text → List Finding}
    (each : ∀ part ∈ parts, lockfile.parse w file part = .ok (found part)) :
    lockfile.parse w file content = .ok (parts.flatMap found) := by
  have all : parts.mapM (lockfile.parse w file) = .ok (parts.map found) := by
    rw [mapM_eq_ok, List.forall₂_map_right_iff, List.forall₂_same]
    exact each
  rw [parse_parted h, all, List.flatMap_def]
  rfl

end Parted

/-- A blank line parts a lockfile. The whole fails exactly if what stands before the line or what stands behind it fails
alone, and else finds what the two find one after the other; nothing is carried over the line. So parts between blank
lines can be put in any order, and only the order of what is found in them changes. -/
theorem parse_blank_between (w : Watchlist) (file : Path) {gap : Text} (blank : Text.isBlankLine gap = true)
    (one : '\n' ∉ gap) (a b : Text) :
    let parse : Text → Except FindingError (List Finding) := lockfile.parse w file
    let whole := a ++ '\n' :: (gap ++ '\n' :: b)
    ((∃ e, parse whole = .error e) ↔ (∃ e, parse a = .error e) ∨ ∃ e, parse b = .error e) ∧
    (∀ fs gs, parse a = .ok fs → parse b = .ok gs → parse whole = .ok (fs ++ gs)) ∧
    Lockfile.settle [] (Text.rows (a ++ '\n' :: gap)) = [] ∧
    Lockfile.resolved [] (Text.rows whole) =
      Lockfile.resolved [] (Text.rows a) ++ Lockfile.resolved [] (Text.rows b) ∧
    ∀ (ps qs : List Text) (t u : Text), Text.Parted ps t → Text.Parted qs u → ps.Perm qs →
      ((∃ e, parse t = .error e) ↔ ∃ e, parse u = .error e) ∧
      ∀ found, (∀ p ∈ ps, parse p = .ok (found p)) →
        parse t = .ok (ps.flatMap found) ∧ parse u = .ok (qs.flatMap found) := by
  intro parse whole
  have parted : Text.Parted [a, b] whole := .cons a blank one (.single b)
  refine ⟨?_, ?_, Lockfile.settle_rows_blank blank one a, Lockfile.resolved_rows_blank blank one a b, ?_⟩
  · rw [parse_parted_eq_error parted, List.exists_mem_cons_iff, List.exists_mem_cons_iff]
    simp [parse]
  · intro fs gs ha hb
    have split : parse whole = ([a, b].mapM parse).map List.flatten := parse_parted parted
    have both : [a, b].mapM parse = .ok [fs, gs] := mapM_eq_ok.2 (.cons ha (.cons hb .nil))
    rw [split, both]
    simp [Except.map]
  · intro ps qs t u ht hu perm
    constructor
    · rw [parse_parted_eq_error ht, parse_parted_eq_error hu]
      simp only [perm.mem_iff]
    · intro found each
      exact ⟨parse_parted_eq_ok ht each, parse_parted_eq_ok hu fun q hq => each q (perm.mem_iff.2 hq)⟩

/-- A header that a carriage return ends stands before the blank line, and a version behind it. -/
theorem parse_blank_between_lodash :
    let parse : Text → Except FindingError (List Finding) :=
      lockfile.parse (Watchlist.parse "lodash: 1".toList) Path.here
    let gap : Text := " \t".toList
    let a : Text := "lodash@^1:\n  version \"1\"\nlodash@^2:\r".toList
    let b : Text := "  version \"1\"\n".toList
    let f : Finding := ⟨Path.here, "lodash".toList, "1".toList, "yarn.lock".toList, none, by decide, by decide⟩
    Text.isBlankLine gap = true ∧ '\n' ∉ gap ∧ parse a = .ok [f] ∧ parse b = .ok [] ∧
      parse (a ++ '\n' :: (gap ++ '\n' :: b)) = .ok [f] := by
  intro parse gap a b f
  have blank : Text.isBlankLine gap = true := by decide
  have one : '\n' ∉ gap := by decide
  have before : parse a = .ok [f] := by rfl
  have behind : parse b = .ok [] := by rfl
  obtain ⟨_, found, _⟩ := parse_blank_between (Watchlist.parse "lodash: 1".toList) Path.here blank one a b
  exact ⟨blank, one, before, behind, found [f] [] before behind⟩

end Parser

end DependencyAudit
