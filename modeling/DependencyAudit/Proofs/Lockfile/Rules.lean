import DependencyAudit.Proofs.Lockfile.Document
import DependencyAudit.Proofs.Text

namespace DependencyAudit

namespace Lockfile

theorem not_blank_of_isNameChar {c : Char} (h : isNameChar c = true) : Text.isBlank c = false := by
  have solid (low : 33 ≤ c.toNat) (high : c.toNat ≤ 126) : Text.isBlank c = false := by
    simp only [Text.isBlank, Bool.or_eq_false_iff, Bool.and_eq_false_iff, decide_eq_false_iff_not,
      beq_eq_false_iff_ne]
    omega
  have between (low high : UInt32) (h : low ≤ c.val ∧ c.val ≤ high) :
      low.toNat ≤ c.toNat ∧ c.toNat ≤ high.toNat :=
    ⟨UInt32.le_iff_toNat_le.1 h.1, UInt32.le_iff_toNat_le.1 h.2⟩
  have both (low high : UInt32) (h : (decide (c.val ≥ low) && decide (c.val ≤ high)) = true) :
      low ≤ c.val ∧ c.val ≤ high := by
    simpa using h
  simp only [isNameChar, Bool.or_eq_true, decide_eq_true_eq] at h
  rcases h with (((letter | rfl) | rfl) | rfl) | rfl
  · rcases Bool.or_eq_true_iff.1 letter with letter | digit
    · rcases Bool.or_eq_true_iff.1 letter with upper | lower
      · obtain ⟨low, high⟩ : 65 ≤ c.toNat ∧ c.toNat ≤ 90 := between 65 90 (of_decide_eq_true upper)
        exact solid (by omega) (by omega)
      · obtain ⟨low, high⟩ : 97 ≤ c.toNat ∧ c.toNat ≤ 122 := between 97 122 (both 97 122 lower)
        exact solid (by omega) (by omega)
    · obtain ⟨low, high⟩ : 48 ≤ c.toNat ∧ c.toNat ≤ 57 := between 48 57 (both 48 57 digit)
      exact solid (by omega) (by omega)
  all_goals rfl

/-- An entry without a range has no blanks behind its first character. -/
theorem not_blank_of_isBareForm {c : Char} {r : Text} (h : isBareForm (c :: r) = true) :
    ∀ d ∈ r, Text.isBlank d = false := by
  intro d hd
  have parts : d ∈ r.takeWhile isNameChar ++ r.dropWhile isNameChar := by
    rw [List.takeWhile_append_dropWhile]
    exact hd
  rcases List.mem_append.1 parts with named | behind
  · exact not_blank_of_isNameChar (List.mem_takeWhile_imp named)
  · rw [isBareForm, Bool.and_eq_true] at h
    obtain ⟨-, closed⟩ := h
    split at closed
    · rename_i after cut
      rw [cut] at behind
      rcases List.mem_cons.1 behind with rfl | behind
      · rfl
      · have solid := List.all_eq_true.1 (Bool.and_eq_true_iff.1 closed).2 d behind
        exact Bool.eq_false_iff.2 (by simpa using solid)
    · cases closed

/-- A text with blanks behind its first character is no entry without a range. -/
theorem isBareForm_of_blank {c b : Char} {r : Text} (hb : b ∈ r) (h : Text.isBlank b = true) :
    isBareForm (c :: r) = false := by
  apply Bool.eq_false_iff.2
  intro bare
  have solid := not_blank_of_isBareForm bare b hb
  rw [h] at solid
  cases solid

/-- What stands before the colon at the end of a line that is no comment are specifiers. -/
theorem header?_concat {t : Text} (entry : t.head? ≠ some '#') (ne : t ≠ []) :
    header? (t ++ [':']) = some ((specifiers t).map specifierName) := by
  obtain ⟨c, r, rfl⟩ := List.exists_cons_of_ne_nil ne
  have trimmed : Text.trimRight (c :: r ++ [':']) = c :: r ++ [':'] := Text.trimRight_concat rfl _
  have ends : (c :: r ++ [':']).getLast? = some ':' := List.getLast?_concat
  have long : 2 ≤ (c :: r ++ [':']).length := by simp
  rw [header?, trimmed, if_pos ⟨entry, ends, long⟩, List.dropLast_concat]

theorem header?_of_not_colon {line : Text} (h : (Text.trimRight line).getLast? ≠ some ':') : header? line = none := by
  rw [header?]
  apply if_neg
  rintro ⟨_, colon, _⟩
  exact h colon

theorem not_bare_of_not_form {line : Text} (h : isBareForm (Text.trim line) = false) : bareEntry? line = none := by
  unfold bareEntry?
  apply if_neg
  rintro ⟨_, bare⟩
  rw [h] at bare
  cases bare

/-- A row states a version that stands in quotation marks behind the word version and blanks. -/
theorem version?_eq_some {row v : Text} :
    version? row = some v ↔ v ≠ [] ∧ '"' ∉ v ∧ ∃ gap after, gap ≠ [] ∧ (∀ c ∈ gap, Text.isBlank c = true) ∧
      Text.trimLeft row = "version".toList ++ (gap ++ '"' :: (v ++ '"' :: after)) := by
  constructor
  · intro h
    rw [version?] at h
    split at h
    · cases h
    · rename_i r word
      split at h
      · rename_i b gap after spaced quoted
        split at h
        · rename_i c u q rest stated closed
          obtain rfl := Option.some.inj h
          obtain ⟨rfl, unquoted, behind⟩ := Text.takeWhile_dropWhile_ne.1 ⟨stated, closed⟩
          have gap_blank : ∀ d ∈ b :: gap, Text.isBlank d = true := by
            rw [← spaced]
            exact fun d hd => List.mem_takeWhile_imp hd
          have whole : r = (b :: gap) ++ '"' :: after := by
            rw [← List.takeWhile_append_dropWhile (p := Text.isBlank) (l := r), spaced, quoted]
          refine ⟨List.cons_ne_nil c u, unquoted, b :: gap, rest, List.cons_ne_nil b gap, gap_blank, ?_⟩
          rw [Text.afterWord_eq_some.1 word, whole, behind]
        · cases h
      · cases h
  · rintro ⟨ne, plain, gap, after, gap_ne, blank, starts⟩
    have word : Text.afterWord "version".toList (Text.trimLeft row) = some (gap ++ '"' :: (v ++ '"' :: after)) :=
      Text.afterWord_eq_some.2 starts
    have spaced : (gap ++ '"' :: (v ++ '"' :: after)).takeWhile Text.isBlank = gap := by
      rw [List.takeWhile_append_of_pos blank, List.takeWhile_cons_of_neg (by decide), List.append_nil]
    have quoted : (gap ++ '"' :: (v ++ '"' :: after)).dropWhile Text.isBlank = '"' :: (v ++ '"' :: after) := by
      rw [List.dropWhile_append_of_pos blank, List.dropWhile_cons_of_neg (by decide)]
    have behind : v ++ '"' :: after = v ++ '"' :: after := rfl
    obtain ⟨stated, closed⟩ := Text.takeWhile_dropWhile_ne.2 ⟨rfl, plain, behind⟩
    obtain ⟨b, g, rfl⟩ := List.exists_cons_of_ne_nil gap_ne
    obtain ⟨c, u, rfl⟩ := List.exists_cons_of_ne_nil ne
    simp only [version?, word, spaced, quoted, stated, closed]

/-- Only the word version before a blank states a version. -/
theorem version?_starts {row v : Text} (h : version? row = some v) :
    ∃ d u, Text.trimLeft row = "version".toList ++ d :: u ∧ Text.isBlank d = true := by
  obtain ⟨-, -, gap, after, gap_ne, blank, starts⟩ := version?_eq_some.1 h
  obtain ⟨d, g, rfl⟩ := List.exists_cons_of_ne_nil gap_ne
  exact ⟨d, g ++ '"' :: (v ++ '"' :: after), starts, blank d List.mem_cons_self⟩

namespace Line

theorem read_header {carried names : List Text} {line : Text} (h : header? line = some names) :
    read carried line = .header names := by
  rw [read, h]

theorem read_version {carried : List Text} {line v : Text} (ne : carried ≠ []) (header : header? line = none)
    (bare : bareEntry? line = none) (version : version? line = some v) : read carried line = .version v := by
  simp only [read, header, bare, if_neg ne, version]

/-- A line that no rule fits says nothing but whether it is blank. -/
theorem read_other {carried : List Text} {line : Text} (header : header? line = none) (bare : bareEntry? line = none)
    (version : version? line = none) :
    read carried line = if Text.isBlankLine line then .blank else .other := by
  simp only [read, header, bare, version, ite_self]

end Line

/-- Behind any blanks it starts with, the line is a number sign and what follows. -/
def IsComment (line : Text) : Prop := (Text.trimLeft line).head? = some '#'

theorem IsComment.not_isBareForm {line : Text} (h : IsComment line) : isBareForm (Text.trim line) = false := by
  obtain ⟨r, trimmed⟩ := Text.exists_trim_eq_cons h
  rw [trimmed]
  rfl

/-- A comment says nothing to a reader unless it is taken for a header. -/
theorem IsComment.read {line : Text} (h : IsComment line) (header : header? line = none) (carried : List Text) :
    Line.read carried line = .other := by
  have version : version? line = none := by
    rw [Option.eq_none_iff_forall_ne_some]
    intro v stated
    obtain ⟨_, _, _, _, _, _, starts⟩ := version?_eq_some.1 stated
    rw [IsComment, starts] at h
    cases h
  have solid : Text.isBlankLine line = false := by
    apply Bool.eq_false_iff.2
    intro blank
    rw [IsComment, Text.trimLeft_of_blank blank] at h
    cases h
  rw [Line.read_other header (not_bare_of_not_form h.not_isBareForm) version, solid]
  rfl

end Lockfile

end DependencyAudit
