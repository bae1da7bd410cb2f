import DependencyAudit.Proofs.Breaks
import DependencyAudit.Proofs.Text
import DependencyAudit.Watchlist.Record

namespace DependencyAudit

namespace Text

/-- Blanks that part no line. -/
def IsSpacing (t : Text) : Prop := ∀ c ∈ t, isBlank c = true ∧ isLineBreak c = false

instance (t : Text) : Decidable (IsSpacing t) :=
  decidable_of_iff (t.all (fun c => isBlank c && !isLineBreak c) = true) (by simp [IsSpacing])

theorem IsSpacing.blank {t : Text} (h : IsSpacing t) : ∀ c ∈ t, isBlank c = true := fun c hc => (h c hc).1

theorem IsSpacing.isLine {t : Text} (h : IsSpacing t) : IsLine t := fun c hc => (h c hc).2

theorem IsSpacing.append {s t : Text} (hs : IsSpacing s) (ht : IsSpacing t) : IsSpacing (s ++ t) :=
  List.forall_mem_append.2 ⟨hs, ht⟩

/-- Trimming takes blanks off both ends of a line. -/
theorem exists_trim {t : Text} (one : IsLine t) :
    ∃ before after, t = before ++ (trim t ++ after) ∧ IsSpacing before ∧ IsSpacing after := by
  let before := t.takeWhile isBlank
  let after := ((trimLeft t).reverse.takeWhile isBlank).reverse
  have left : before ++ trimLeft t = t := List.takeWhile_append_dropWhile
  have right : trim t ++ after = trimLeft t := by
    rw [trim, trimRight, ← List.reverse_append, List.takeWhile_append_dropWhile, List.reverse_reverse]
  have lines : IsLine (before ++ (trim t ++ after)) := by
    rw [right, left]
    exact one
  obtain ⟨before_line, -, after_line⟩ : IsLine before ∧ IsLine (trim t) ∧ IsLine after := by
    simpa [isLine_append] using lines
  refine ⟨before, after, by rw [right, left], ?_, ?_⟩
  · intro c hc
    exact ⟨List.mem_takeWhile_imp hc, before_line c hc⟩
  · intro c hc
    exact ⟨List.mem_takeWhile_imp (List.mem_reverse.1 hc), after_line c hc⟩

theorem IsLine.trim {t : Text} (one : IsLine t) : IsLine (trim t) := fun c hc => one c (mem_of_mem_trim hc)

/-- A trimmed text with blanks around it is trimmed to itself. -/
theorem trim_padded {before t after : Text} (left : ∀ c ∈ before, isBlank c = true) (trimmed : trim t = t)
    (right : ∀ c ∈ after, isBlank c = true) : trim (before ++ (t ++ after)) = t := by
  rw [trim, trimLeft_append left]
  cases t with
  | nil =>
    have gone : trimLeft after = [] := trimLeft_of_blank (List.all_eq_true.2 right)
    rw [List.nil_append, gone]
    rfl
  | cons c r =>
    have solid : isBlank c = false := head_of_trim trimmed
    have kept : trimRight (c :: r) = c :: r := by
      rw [← trimmed]
      exact trimRight_trim (c :: r)
    rw [List.cons_append, trimLeft_cons solid, ← List.cons_append, trimRight_append_blank right, kept]

/-- Whatever stands between two trimmed texts, nothing is taken off. -/
theorem trim_append {s t : Text} (hs : trim s = s) (ht : trim t = t) (start : s ≠ []) (stop : t ≠ []) (between : Text) :
    trim (s ++ (between ++ t)) = s ++ (between ++ t) := by
  obtain ⟨c, r, rfl⟩ := List.exists_cons_of_ne_nil start
  have solid : isBlank c = false := head_of_trim hs
  have kept : trimRight t = t := by
    rw [← ht]
    exact trimRight_trim t
  have stays : trimRight t ≠ [] := by rwa [kept]
  rw [trim, List.cons_append, trimLeft_cons solid, ← List.cons_append, ← List.append_assoc, trimRight_append stays, kept]

/-- Nothing is taken off in front of what a trimmed text starts with. -/
theorem head?_trim_of_trim {t s r : Text} (h : trim t = s ++ r) : (trim s).head? = s.head? := by
  cases s with
  | nil => rfl
  | cons c s =>
    have solid : isBlank c = false := head_of_trim h
    have first : (trimLeft (c :: s)).head? = some c := by rw [trimLeft_cons solid, List.head?_cons]
    obtain ⟨rest, trimmed⟩ := exists_trim_eq_cons first
    rw [trimmed, List.head?_cons, List.head?_cons]

theorem isBlankLine_of_trim {t : Text} (h : trim t = []) : isBlankLine t = true := by
  cases left : trimLeft t with
  | nil => exact List.all_eq_true.2 (List.dropWhile_eq_nil_iff.1 left)
  | cons c r =>
    have kept : trimRight (c :: r) ≠ [] := trimRight_ne_nil List.mem_cons_self (head_of_trimLeft left)
    rw [trim, left] at h
    exact absurd h kept

end Text

namespace Record

/-- What can be a record of a list: neither part is empty, has blanks at an end or goes over a line, the name is no
comment, and the version has no colon. -/
structure IsListable (r : Record) : Prop where
  name_ne : r.name ≠ []
  name_trimmed : Text.trim r.name = r.name
  name_entry : r.name.head? ≠ some '#'
  name_line : Text.IsLine r.name
  version_ne : r.version ≠ []
  version_trimmed : Text.trim r.version = r.version
  version_solid : ':' ∉ r.version
  version_line : Text.IsLine r.version

instance (r : Record) : Decidable r.IsListable :=
  decidable_of_iff ((r.name ≠ [] ∧ Text.trim r.name = r.name ∧ r.name.head? ≠ some '#' ∧ Text.IsLine r.name) ∧
      r.version ≠ [] ∧ Text.trim r.version = r.version ∧ ':' ∉ r.version ∧ Text.IsLine r.version)
    ⟨fun ⟨⟨a, b, c, d⟩, e, f, g, h⟩ => ⟨a, b, c, d, e, f, g, h⟩,
      fun h => ⟨⟨h.name_ne, h.name_trimmed, h.name_entry, h.name_line⟩, h.version_ne, h.version_trimmed, h.version_solid,
        h.version_line⟩⟩

/-- A line that states a record: the name, a colon and the version, with blanks around both parts. -/
inductive StatedBy (r : Record) : Text → Prop
  | mk {indent gap gap' tail : Text} (start : Text.IsSpacing indent) (before : Text.IsSpacing gap)
      (behind : Text.IsSpacing gap') (stop : Text.IsSpacing tail) :
      StatedBy r (indent ++ (r.name ++ (gap ++ ':' :: (gap' ++ (r.version ++ tail)))))

/-- A line that states no record: a comment, a blank line, or a line without a colon further in, without a name or without
a version. -/
inductive IsVoid (line : Text) : Prop
  | comment (h : (Text.trimLeft line).head? = some '#')
  | blank (h : Text.isBlankLine line = true)
  | noColon (h : ':' ∉ (Text.trim line).tail)
  | noName {before after : Text} (parted : line = before ++ ':' :: after) (last : ':' ∉ after)
      (h : Text.isBlankLine before = true)
  | noVersion {before after : Text} (parted : line = before ++ ':' :: after) (h : Text.isBlankLine after = true)

variable {line : Text} {r : Record}

theorem ofLine?_eq_some : ofLine? line = some r ↔ (Text.trim line).head? ≠ some '#' ∧
    ∃ before after, Text.trim line = before ++ ':' :: after ∧ ':' ∉ after ∧
      Text.trim before = r.name ∧ Text.trim after = r.version ∧ r.name ≠ [] ∧ r.version ≠ [] := by
  by_cases comment : (Text.trim line).head? = some '#'
  · simp [ofLine?, comment]
  · simp only [ofLine?, comment, if_false, ne_eq, not_false_eq_true, true_and]
    constructor
    · intro h
      split at h
      · cases h
      · rename_i before after cut
        split at h
        · cases h
        · rename_i present
          obtain ⟨name, version⟩ := not_or.1 present
          obtain ⟨whole, last⟩ := Text.cutLast_eq_some.1 cut
          obtain rfl := Option.some.inj h
          exact ⟨before, after, whole, last, rfl, rfl, name, version⟩
    · rintro ⟨before, after, whole, last, name, version, name_ne, version_ne⟩
      have cut : Text.cutLast ':' (Text.trim line) = some (before, after) := Text.cutLast_eq_some.2 ⟨whole, last⟩
      simp [cut, name, version, name_ne, version_ne]

namespace StatedBy

theorem isLine (listable : r.IsListable) (h : StatedBy r line) : Text.IsLine line := by
  obtain ⟨start, before, behind, stop⟩ := h
  have colon : Text.isLineBreak ':' = false := rfl
  simp only [Text.isLine_append, Text.isLine_cons]
  exact ⟨start.isLine, listable.name_line, before.isLine, colon, behind.isLine, listable.version_line, stop.isLine⟩

/-- A line that states a record is read as that record. -/
theorem ofLine?_eq (listable : r.IsListable) (h : StatedBy r line) : ofLine? line = some r := by
  obtain @⟨indent, gap, gap', tail, start, before, behind, stop⟩ := h
  have no_blank : ∀ c ∈ ([] : Text), Text.isBlank c = true := fun c hc => absurd hc List.not_mem_nil
  have core : Text.trim (r.name ++ ((gap ++ ':' :: gap') ++ r.version)) =
      r.name ++ ((gap ++ ':' :: gap') ++ r.version) :=
    Text.trim_append listable.name_trimmed listable.version_trimmed listable.name_ne listable.version_ne _
  have trimmed : Text.trim (indent ++ (r.name ++ (gap ++ ':' :: (gap' ++ (r.version ++ tail))))) =
      (r.name ++ gap) ++ ':' :: (gap' ++ r.version) := by
    have padded := Text.trim_padded start.blank core stop.blank
    simpa using padded
  have name : Text.trim (r.name ++ gap) = r.name := Text.trim_padded no_blank listable.name_trimmed before.blank
  have version : Text.trim (gap' ++ r.version) = r.version := by
    have padded := Text.trim_padded behind.blank listable.version_trimmed no_blank
    rwa [List.append_nil] at padded
  have last : ':' ∉ gap' ++ r.version := by
    intro mem
    rcases List.mem_append.1 mem with mem | mem
    · exact absurd (behind.blank _ mem) (by decide)
    · exact listable.version_solid mem
  have entry : (r.name ++ gap ++ ':' :: (gap' ++ r.version)).head? ≠ some '#' := by
    obtain ⟨c, n, named⟩ := List.exists_cons_of_ne_nil listable.name_ne
    have first := listable.name_entry
    rw [named] at first ⊢
    exact first
  refine ofLine?_eq_some.2 ⟨trimmed ▸ entry, r.name ++ gap, gap' ++ r.version, trimmed, last, name, version, ?_, ?_⟩
  · exact listable.name_ne
  · exact listable.version_ne

end StatedBy

/-- What a line is read as can be a record. -/
theorem isListable_of_ofLine? (one : Text.IsLine line) (h : ofLine? line = some r) : r.IsListable := by
  obtain ⟨entry, before, after, whole, last, name, version, name_ne, version_ne⟩ := ofLine?_eq_some.1 h
  have core : Text.IsLine (Text.trim line) := one.trim
  rw [whole, Text.isLine_append, Text.isLine_cons] at core
  obtain ⟨before_line, -, after_line⟩ := core
  have name_entry : r.name.head? ≠ some '#' := by
    obtain ⟨c, n, starts⟩ := List.exists_cons_of_ne_nil name_ne
    have same := Text.head?_trim_of_trim whole
    rw [name, starts, List.head?_cons] at same
    rw [whole, List.head?_append, ← same] at entry
    rwa [starts]
  constructor
  case name_ne => exact name_ne
  case name_trimmed => rw [← name, Text.trim_trim]
  case name_entry => exact name_entry
  case name_line =>
    rw [← name]
    exact before_line.trim
  case version_ne => exact version_ne
  case version_trimmed => rw [← version, Text.trim_trim]
  case version_solid =>
    rw [← version]
    exact fun mem => last (Text.mem_of_mem_trim mem)
  case version_line =>
    rw [← version]
    exact after_line.trim

/-- A line states the record that it is read as. -/
theorem statedBy_of_ofLine? (one : Text.IsLine line) (h : ofLine? line = some r) : StatedBy r line := by
  obtain ⟨-, before, after, whole, -, name, version, -, -⟩ := ofLine?_eq_some.1 h
  have core : Text.IsLine (Text.trim line) := one.trim
  rw [whole, Text.isLine_append, Text.isLine_cons] at core
  obtain ⟨before_line, -, after_line⟩ := core
  obtain ⟨indent, tail, line_eq, start, stop⟩ := Text.exists_trim one
  obtain ⟨left, gap, before_eq, left_spacing, gap_spacing⟩ := Text.exists_trim before_line
  obtain ⟨gap', right, after_eq, gap'_spacing, right_spacing⟩ := Text.exists_trim after_line
  rw [name] at before_eq
  rw [version] at after_eq
  have spelled : line = (indent ++ left) ++ (r.name ++ (gap ++ ':' :: (gap' ++ (r.version ++ (right ++ tail))))) := by
    rw [line_eq, whole, before_eq, after_eq]
    simp
  rw [spelled]
  exact .mk (start.append left_spacing) gap_spacing gap'_spacing (right_spacing.append stop)

namespace IsVoid

/-- Where nothing but blanks stands before the last colon, a trimmed line has none further in. -/
theorem not_mem_tail {before after : Text} (parted : line = before ++ ':' :: after) (last : ':' ∉ after)
    (blank : Text.isBlankLine before = true) : ':' ∉ (Text.trim line).tail := by
  have left : Text.trimLeft line = ':' :: after := by
    rw [parted, Text.trimLeft_append (List.all_eq_true.1 blank), Text.trimLeft_cons rfl]
  have kept : Text.trim line <+: ':' :: after := left ▸ List.rdropWhile_prefix Text.isBlank (Text.trimLeft line)
  obtain ⟨dropped, whole⟩ := kept
  cases trimmed : Text.trim line with
  | nil => exact List.not_mem_nil
  | cons c rest =>
    rw [trimmed, List.cons_append] at whole
    obtain ⟨-, behind⟩ := List.cons.inj whole
    intro mem
    apply last
    rw [← behind]
    exact List.mem_append_left dropped mem

theorem trim_eq {before after : Text} (parted : line = before ++ ':' :: after)
    (blank : Text.isBlankLine after = true) : Text.trim line = Text.trimLeft before ++ [':'] := by
  have cut : Text.trimLeft before ++ ':' :: after = (Text.trimLeft before ++ [':']) ++ after := by simp
  rw [Text.trim, parted, Text.trimLeft_append_cons rfl, cut, Text.trimRight_append_blank (List.all_eq_true.1 blank),
    Text.trimRight_concat rfl]

/-- A void line is read as no record. -/
theorem ofLine?_eq (h : IsVoid line) : ofLine? line = none := by
  apply Option.eq_none_iff_forall_ne_some.2
  intro r read
  obtain ⟨entry, before, after, whole, last, name, version, name_ne, version_ne⟩ := ofLine?_eq_some.1 read
  have given : before ≠ [] := by
    rintro rfl
    exact name_ne name.symm
  have further : ':' ∈ (Text.trim line).tail := by
    obtain ⟨c, rest, starts⟩ := List.exists_cons_of_ne_nil given
    rw [whole, starts]
    simp
  cases h with
  | comment first =>
    obtain ⟨rest, trimmed⟩ := Text.exists_trim_eq_cons first
    rw [trimmed] at entry
    exact entry rfl
  | blank blank =>
    have trimmed : Text.trim line = [] := by
      rw [Text.trim, Text.trimLeft_of_blank blank]
      rfl
    rw [trimmed] at further
    exact absurd further List.not_mem_nil
  | noColon none_further => exact none_further further
  | noName parted last' blank => exact not_mem_tail parted last' blank further
  | noVersion parted blank =>
    have ends := (Text.cutLast_eq_some (d := ':')).2 ⟨trim_eq parted blank, List.not_mem_nil⟩
    rw [Text.cutLast_eq_some.2 ⟨whole, last⟩] at ends
    obtain ⟨-, rfl⟩ := Prod.mk.inj (Option.some.inj ends)
    exact version_ne version.symm

end IsVoid

/-- A line that is read as no record is void. -/
theorem isVoid_of_ofLine? (one : Text.IsLine line) (h : ofLine? line = none) : IsVoid line := by
  by_cases comment : (Text.trim line).head? = some '#'
  · have kept : Text.trim line <+: Text.trimLeft line := List.rdropWhile_prefix Text.isBlank (Text.trimLeft line)
    obtain ⟨rest, starts⟩ := List.head?_eq_some_iff.1 comment
    obtain ⟨dropped, left⟩ := kept
    apply IsVoid.comment
    rw [← left, starts]
    rfl
  by_cases further : ':' ∈ (Text.trim line).tail
  · obtain ⟨before, after, whole, last⟩ : ∃ before after, Text.trim line = before ++ ':' :: after ∧ ':' ∉ after := by
      cases cut : Text.cutLast ':' (Text.trim line) with
      | none => exact absurd (List.mem_of_mem_tail further) (Text.not_mem_of_cutLast cut)
      | some parts => exact ⟨parts.1, parts.2, Text.cutLast_eq_some.1 cut⟩
    have named : Text.trim before ≠ [] := by
      cases before with
      | nil =>
        rw [whole] at further
        exact absurd further last
      | cons c before =>
        have first := Text.head?_trim_of_trim whole
        intro gone
        rw [gone] at first
        cases first
    by_cases no_version : Text.trim after = []
    · obtain ⟨indent, tail, line_eq, -, stop⟩ := Text.exists_trim one
      have parted : line = (indent ++ before) ++ ':' :: (after ++ tail) := by
        rw [line_eq, whole]
        simp
      apply IsVoid.noVersion parted
      rw [Text.isBlankLine, List.all_append, Bool.and_eq_true]
      exact ⟨Text.isBlankLine_of_trim no_version, List.all_eq_true.2 stop.blank⟩
    · have read : ofLine? line = some ⟨Text.trim before, Text.trim after⟩ :=
        ofLine?_eq_some.2 ⟨comment, before, after, whole, last, rfl, rfl, named, no_version⟩
      rw [read] at h
      cases h
  · exact .noColon further

theorem readAll_of_isLine (one : Text.IsLine line) : readAll line = (ofLine? line).toList := by
  rw [readAll]
  rcases Text.lines_of_isLine one with ⟨none_left, rfl⟩ | whole
  · rfl
  · rw [whole, List.filterMap_cons]
    cases ofLine? line <;> rfl

/-- A line gives its record, and what stands behind its break is read on its own: at most a blank line is lost where the
break is the first half of a pair. -/
theorem readAll_line_break (one : Text.IsLine line) {c : Char} (isBreak : Text.isLineBreak c = true) (rest : Text) :
    readAll (line ++ c :: rest) = (ofLine? line).toList ++ readAll rest := by
  have first (ls : List Text) : (line :: ls).filterMap ofLine? = (ofLine? line).toList ++ ls.filterMap ofLine? := by
    rw [List.filterMap_cons]
    cases ofLine? line <;> rfl
  by_cases pair : c = '\r' ∧ ∃ s, rest = '\n' :: s
  · obtain ⟨rfl, s, rfl⟩ := pair
    have feed : readAll ('\n' :: s) = readAll s := rfl
    have whole : Text.lines ('\r' :: '\n' :: s) = [] :: Text.lines s := rfl
    rw [readAll, Text.lines_append one whole, first, feed, readAll]
  · have apart : ∀ s, c = '\r' → rest ≠ '\n' :: s := fun s ret feed => pair ⟨ret, s, feed⟩
    rw [readAll, Text.lines_append one (Text.lines_cons_break isBreak apart), first, readAll]

theorem readAll_append {c : Char} (isBreak : Text.isLineBreak c = true) (s t : Text) :
    readAll (s ++ c :: t) = readAll s ++ readAll t := by
  induction s using Text.break_induction with
  | line s one => rw [readAll_line_break one isBreak, readAll_of_isLine one]
  | step s d rest one isBreak' ih =>
    rw [List.append_assoc, List.cons_append, readAll_line_break one isBreak', readAll_line_break one isBreak', ih,
      List.append_assoc]

/-- The records of two lists, the second from a line of its own on, are those of both. -/
theorem readAll_append_break {b : Text} (ends : Text.IsBreak b) (s t : Text) :
    readAll (s ++ (b ++ t)) = readAll s ++ readAll t := by
  cases ends with
  | single isBreak => exact readAll_append isBreak s t
  | pair =>
    have feed : readAll ('\n' :: t) = readAll t := rfl
    rw [List.cons_append, List.cons_append, List.nil_append, readAll_append rfl, feed]

/-- Whatever a list holds, its records can be written in one. -/
theorem isListable_of_mem {t : Text} (h : r ∈ readAll t) : r.IsListable := by
  induction t using Text.break_induction with
  | line t one =>
    rw [readAll_of_isLine one, Option.mem_toList] at h
    exact isListable_of_ofLine? one h
  | step t c rest one isBreak ih =>
    rw [readAll_line_break one isBreak, List.mem_append, Option.mem_toList] at h
    rcases h with h | h
    · exact isListable_of_ofLine? one h
    · exact ih h

theorem IsListable.exists_name (h : r.IsListable) : ∃ c n, r.name = c :: n ∧ Text.isBlank c = false := by
  obtain ⟨c, n, named⟩ := List.exists_cons_of_ne_nil h.name_ne
  exact ⟨c, n, named, Text.head_of_trim (h.name_trimmed.trans named)⟩

end Record

end DependencyAudit
