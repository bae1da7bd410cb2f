import DependencyAudit.Proofs.Lockfile.Rules

namespace DependencyAudit

theorem Text.IsGap.starts {t : Text} (h : IsGap t) : ∃ b g, t = b :: g ∧ isBlank b = true := by
  obtain ⟨b, g, rfl⟩ := List.exists_cons_of_ne_nil h.ne
  exact ⟨b, g, rfl, h.blank b List.mem_cons_self⟩

namespace Lockfile

theorem unquote_quoted (mark : Char) (t : Text) : unquote mark ([mark] ++ t ++ [mark]) = t := by
  simp [unquote]

theorem unquote_other {mark other : Char} (h : other ≠ mark) (t : Text) :
    unquote mark ([other] ++ t ++ [other]) = [other] ++ t ++ [other] := by
  have first : ([other] ++ t ++ [other]).head? ≠ some mark := by
    intro head
    exact h (Option.some.inj head)
  have last : ([other] ++ t ++ [other]).getLast? ≠ some mark := by
    rw [List.getLast?_concat]
    intro last
    exact h (Option.some.inj last)
  simp only [unquote, if_neg first, if_neg last]

/-- A quotation mark behind a range goes with the range. -/
theorem unquote_bare {mark : Char} {name : Text} (range : Text) (ne : name ≠ []) (plain : ∀ c ∈ name, c ≠ mark)
    (other : mark ≠ '@') : ∃ r, unquote mark (name ++ '@' :: range) = name ++ '@' :: r ∧ ∀ c ∈ r, c ∈ range := by
  obtain ⟨c, n, rfl⟩ := List.exists_cons_of_ne_nil ne
  have first : (c :: n ++ '@' :: range).head? ≠ some mark := by
    intro head
    exact plain c List.mem_cons_self (Option.some.inj head)
  simp only [unquote, if_neg first]
  split
  · rename_i last
    cases range with
    | nil =>
      rw [List.getLast?_append] at last
      exact absurd (Option.some.inj last).symm other
    | cons d range =>
      refine ⟨(d :: range).dropLast, ?_, ?_⟩
      · rw [List.dropLast_append_of_ne_nil (List.cons_ne_nil _ _)]
        rfl
      · intro e he
        exact List.dropLast_subset _ he
  · exact ⟨range, rfl, fun _ h => h⟩

namespace Specifier

theorem name_ne_mark (s : Specifier) : (∀ c ∈ s.name, c ≠ '"') ∧ ∀ c ∈ s.name, c ≠ '\'' :=
  ⟨fun c hc => (s.name_plain c hc).2.1, fun c hc => (s.name_plain c hc).2.2⟩

/-- What is left of a specifier without its quotation marks. -/
theorem unquote_text (s : Specifier) :
    ∃ r, unquote '\'' (unquote '"' s.text) = s.name ++ '@' :: r ∧ '@' ∉ r := by
  obtain ⟨double, single⟩ := s.name_ne_mark
  have no_at : '@' ∉ s.range := by
    intro h
    exact (s.range_plain '@' h).2.1 rfl
  rw [text]
  cases s.quotation with
  | none =>
    rw [Quotation.mark, List.nil_append, List.append_nil]
    obtain ⟨r, hr, sub⟩ := unquote_bare s.range s.name_ne double (by decide)
    obtain ⟨r', hr', sub'⟩ := unquote_bare r s.name_ne single (by decide)
    refine ⟨r', ?_, fun h => no_at (sub _ (sub' _ h))⟩
    rw [hr, hr']
  | double =>
    rw [Quotation.mark, unquote_quoted]
    obtain ⟨r, hr, sub⟩ := unquote_bare s.range s.name_ne single (by decide)
    exact ⟨r, hr, fun h => no_at (sub _ h)⟩
  | single =>
    rw [Quotation.mark, unquote_other (by decide), unquote_quoted]
    exact ⟨s.range, rfl, no_at⟩

/-- A specifier names its package. -/
theorem specifierName_text (s : Specifier) : specifierName s.text = s.name := by
  obtain ⟨r, unquoted, no_at⟩ := s.unquote_text
  obtain ⟨c, n, named⟩ := List.exists_cons_of_ne_nil s.name_ne
  simp only [specifierName, unquoted, Text.cutLast_append no_at, named]

theorem text_solid (s : Specifier) : ∃ c r, s.text = c :: r ∧ Text.isBlank c = false := by
  rw [text]
  cases s.quotation with
  | none =>
    obtain ⟨c, n, named⟩ := List.exists_cons_of_ne_nil s.name_ne
    rw [Quotation.mark, named]
    exact ⟨c, _, rfl, s.name_solid c (named ▸ List.mem_cons_self)⟩
  | single => exact ⟨'\'', _, rfl, rfl⟩
  | double => exact ⟨'"', _, rfl, rfl⟩

theorem not_mem_text {s : Specifier} {c : Char} (single : c ≠ '\'') (double : c ≠ '"') (sign : c ≠ '@')
    (name : c ∉ s.name) (range : c ∉ s.range) : c ∉ s.text := by
  have mark : c ∉ s.quotation.mark := by
    cases s.quotation with
    | none => exact List.not_mem_nil
    | single => exact fun h => single (List.mem_singleton.1 h)
    | double => exact fun h => double (List.mem_singleton.1 h)
  intro h
  rcases List.mem_append.1 h with h | h
  · rcases List.mem_append.1 h with h | h
    · exact mark h
    · rcases List.mem_append.1 h with h | h
      · exact name h
      · rcases List.mem_cons.1 h with h | h
        · exact sign h
        · exact range h
  · exact mark h

theorem comma_not_mem_text (s : Specifier) : ',' ∉ s.text := by
  apply not_mem_text (by decide) (by decide) (by decide)
  · intro h
    exact (s.name_plain _ h).1 rfl
  · intro h
    exact (s.range_plain _ h).1 rfl

theorem feed_not_mem_text (s : Specifier) : '\n' ∉ s.text := by
  apply not_mem_text (by decide) (by decide) (by decide)
  · intro h
    have solid := s.name_solid _ h
    cases solid
  · intro h
    exact (s.range_plain _ h).2.2 rfl

end Specifier

namespace Block

/-- The texts of a header's specifiers are cut out of it again. -/
theorem specifiers_joined (b : Block) :
    Lockfile.specifiers (Text.joinWith ", " (b.specifiers.map Specifier.text)) = b.specifiers.map Specifier.text := by
  have no_comma : ∀ t ∈ b.first.text :: b.others.map Specifier.text, ',' ∉ t := by
    intro t ht
    obtain ⟨s, _, rfl⟩ : ∃ s ∈ b.specifiers, s.text = t := List.mem_map.1 ht
    exact s.comma_not_mem_text
  rw [Lockfile.specifiers, specifiers, List.map_cons, Text.splitOn_joinWith no_comma]
  simp only [List.map_map, List.cons.injEq, true_and]
  apply List.map_congr_left
  intro s _
  obtain ⟨c, r, ht, solid⟩ := s.text_solid
  have trimmed : Text.trimLeft (' ' :: s.text) = s.text := by
    rw [ht]
    exact Text.trimLeft_cons solid r
  exact trimmed

/-- A header starts as its first specifier does. -/
theorem header_starts (b : Block) :
    ∃ c r u, b.first.text = c :: r ∧ Text.joinWith ", " (b.specifiers.map Specifier.text) = c :: u := by
  obtain ⟨c, r, first, -⟩ := b.first.text_solid
  cases rest : b.others.map Specifier.text with
  | nil =>
    refine ⟨c, r, r, first, ?_⟩
    rw [specifiers, List.map_cons, rest, Text.joinWith_singleton, first]
  | cons t ts =>
    refine ⟨c, r, r ++ ',' :: ' ' :: Text.joinWith ", " (t :: ts), first, ?_⟩
    rw [specifiers, List.map_cons, rest, Text.joinWith_cons, first, List.cons_append]

/-- The header of a block names its packages in order. -/
theorem header?_header (b : Block) : header? b.header = some (b.specifiers.map (·.name)) := by
  obtain ⟨c, r, u, first, joined⟩ := b.header_starts
  have entry : (Text.joinWith ", " (b.specifiers.map Specifier.text)).head? ≠ some '#' := by
    have no_comment := b.no_comment
    rw [first] at no_comment
    rw [joined]
    exact no_comment
  have ne : Text.joinWith ", " (b.specifiers.map Specifier.text) ≠ [] := by
    rw [joined]
    exact List.cons_ne_nil c u
  rw [header, header?_concat entry ne, b.specifiers_joined, List.map_map]
  congr 1
  apply List.map_congr_left
  intro s _
  exact s.specifierName_text

theorem versionLine_concat (b : Block) : b.versionLine = ("  version \"".toList ++ b.version) ++ ['"'] :=
  (List.append_assoc ..).symm

theorem versionLine_rules (b : Block) :
    header? b.versionLine = none ∧ bareEntry? b.versionLine = none ∧ version? b.versionLine = some b.version := by
  have left : Text.trimLeft b.versionLine = ("version \"".toList ++ b.version) ++ ['"'] := by
    rw [versionLine_concat]
    rfl
  refine ⟨?_, ?_, ?_⟩
  · apply header?_of_not_colon
    rw [versionLine_concat, Text.trimRight_concat rfl, List.getLast?_concat]
    decide
  · apply not_bare_of_not_form
    rw [Text.trim, left, Text.trimRight_concat rfl]
    have blank_inside : ' ' ∈ "ersion \"".toList ++ b.version ++ ['"'] := by simp
    exact isBareForm_of_blank blank_inside rfl
  · have plain : '"' ∉ b.version := fun mark => (b.version_plain _ mark).1 rfl
    refine version?_eq_some.2 ⟨b.version_ne, plain, [' '], [], List.cons_ne_nil _ _, by simp [Text.isBlank], ?_⟩
    rw [left]
    simp

end Block

namespace Pair

theorem trimLeft_line (p : Pair) : Text.trimLeft p.line = p.key ++ (p.gap ++ p.value) := by
  obtain ⟨c, k, named⟩ := List.exists_cons_of_ne_nil p.key_ne
  have solid : Text.isBlank c = false := p.key_solid c (named ▸ List.mem_cons_self)
  rw [line, Text.trimLeft_append p.indent_gap.blank, named]
  exact Text.trimLeft_cons solid _

theorem value_kept (p : Pair) : Text.trimRight p.value ≠ [] := by
  obtain ⟨c, r, stated, solid⟩ := p.value_solid
  have mem : c ∈ p.value := stated ▸ List.mem_cons_self
  exact Text.trimRight_ne_nil mem solid

theorem header?_line (p : Pair) : header? p.line = none := by
  have concat : p.line = (p.indent ++ (p.key ++ p.gap)) ++ p.value := by
    simp only [line, List.append_assoc]
  apply header?_of_not_colon
  rw [concat, Text.trimRight_append p.value_kept, List.getLast?_append_of_ne_nil _ p.value_kept]
  exact p.value_closed

theorem line_not_bare (p : Pair) : bareEntry? p.line = none := by
  obtain ⟨c, k, named⟩ := List.exists_cons_of_ne_nil p.key_ne
  obtain ⟨b, g, apart, blank⟩ := p.gap_gap.starts
  have inside : b ∈ k ++ (p.gap ++ Text.trimRight p.value) := by
    simp [apart]
  have trimmed : Text.trim p.line = c :: (k ++ (p.gap ++ Text.trimRight p.value)) := by
    rw [Text.trim, p.trimLeft_line, ← List.append_assoc, Text.trimRight_append p.value_kept, List.append_assoc, named,
      List.cons_append]
  apply not_bare_of_not_form
  rw [trimmed]
  exact isBareForm_of_blank inside blank

theorem isBlankLine_line (p : Pair) : Text.isBlankLine p.line = false := by
  obtain ⟨c, r, stated, solid⟩ := p.value_solid
  apply Bool.eq_false_iff.2
  intro blank
  have mem : c ∈ p.line := by
    simp [line, stated]
  have bad := List.all_eq_true.1 blank c mem
  rw [solid] at bad
  cases bad

/-- A key with its value says nothing, or it states a version. -/
theorem read_line (p : Pair) (carried : List Text) :
    Line.read carried p.line = .other ∨ ∃ v, Line.read carried p.line = .version v := by
  by_cases outside : carried = []
  · left
    simp only [Line.read, p.header?_line, p.line_not_bare, if_pos outside, p.isBlankLine_line]
    rfl
  · cases stated : version? p.line with
    | none =>
      left
      rw [Line.read_other p.header?_line p.line_not_bare stated, p.isBlankLine_line]
      rfl
    | some v => exact .inr ⟨v, Line.read_version outside p.header?_line p.line_not_bare stated⟩

end Pair

theorem takeWhile_solid {key r : Text} {b : Char} (solid : ∀ c ∈ key, Text.isBlank c = false)
    (blank : Text.isBlank b = true) : (key ++ b :: r).takeWhile (fun c => !Text.isBlank c) = key := by
  have kept : ∀ c ∈ key, (!Text.isBlank c) = true := by
    intro c hc
    rw [solid c hc]
    rfl
  rw [List.takeWhile_append_of_pos kept, List.takeWhile_cons_of_neg (by simp [blank]), List.append_nil]

namespace Attribute

theorem version?_line (a : Attribute) : version? a.line = none := by
  cases stated : version? a.line with
  | none => rfl
  | some v =>
    obtain ⟨b, g, apart, blank⟩ := a.gap_gap.starts
    obtain ⟨d, u, starts, behind⟩ := version?_starts stated
    have word_solid : ∀ c ∈ "version".toList, Text.isBlank c = false := by simp [Text.isBlank]
    -- Both are the line up to its first blank: the key, and the word version.
    rw [a.trimLeft_line, apart, List.cons_append] at starts
    have same := congrArg (List.takeWhile fun c => !Text.isBlank c) starts
    rw [takeWhile_solid a.key_solid blank, takeWhile_solid word_solid behind] at same
    exact absurd same a.key_other

theorem read_line (a : Attribute) (carried : List Text) : Line.read carried a.line = .other := by
  rw [Line.read_other a.header?_line a.line_not_bare a.version?_line, a.isBlankLine_line]
  rfl

end Attribute

namespace Part

theorem unquote_indented (mark : Char) (h : ' ' ≠ mark) (t : Text) : ∃ u, unquote mark (' ' :: t) = ' ' :: u := by
  have first : (' ' :: t).head? ≠ some mark := by
    intro head
    exact h (Option.some.inj head)
  simp only [unquote, if_neg first]
  split
  · rename_i last
    cases t with
    | nil => exact absurd (Option.some.inj last) h
    | cons c t => exact ⟨(c :: t).dropLast, rfl⟩
  · exact ⟨t, rfl⟩

theorem specifierName_indented (t : Text) : ∃ n, specifierName (' ' :: t) = ' ' :: n := by
  obtain ⟨u, double⟩ := unquote_indented '"' (by decide) t
  obtain ⟨u', single⟩ := unquote_indented '\'' (by decide) u
  rw [specifierName, double, single, Text.cutLast]
  cases Text.cutLast '@' u' with
  | none => exact ⟨u', rfl⟩
  | some parts => exact ⟨parts.1, rfl⟩

theorem header_concat (p : Part) : p.header = ' ' :: ' ' :: p.name ++ [':'] := (List.append_assoc ..).symm

/-- The header of a part names a package that starts with a blank, which no list has. -/
theorem header?_header (p : Part) : ∃ n, header? p.header = some [' ' :: n] := by
  obtain ⟨n, named⟩ := specifierName_indented (' ' :: p.name)
  have no_comma : ',' ∉ ' ' :: ' ' :: p.name := by
    intro h
    rcases List.mem_cons.1 h with h | h
    · cases h
    · rcases List.mem_cons.1 h with h | h
      · cases h
      · exact (p.name_plain _ h).1 rfl
  refine ⟨n, ?_⟩
  have entry : (' ' :: ' ' :: p.name).head? ≠ some '#' := by
    rw [List.head?_cons]
    decide
  rw [p.header_concat, header?_concat entry (List.cons_ne_nil _ _), specifiers, List.splitOn_eq_singleton no_comma]
  simp only [List.map_nil, List.map_cons, named]

end Part

end Lockfile

end DependencyAudit
