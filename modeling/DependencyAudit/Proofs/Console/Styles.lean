import DependencyAudit.Console.Table
import DependencyAudit.Proofs.Console.Escaping

namespace DependencyAudit.Console

namespace Styled

/-- All styles of a text are such. -/
def InStyles (P : Text → Prop) (s : Styled) : Prop := ∀ m ∈ s.marks, P m.style

section Lines

variable {P : Text → Prop} {s : Styled} (h : s.InStyles P)

include h

theorem InStyles.part (start stop : Nat) : (s.part start stop).InStyles P := by
  intro m hm
  obtain ⟨k, hk, within⟩ := List.mem_filterMap.1 hm
  rw [Mark.within?] at within
  split at within
  · rw [← Option.some.inj within]
    exact h k hk
  · cases within

theorem InStyles.upTo (length : Nat) : (s.upTo length).InStyles P := by
  intro m hm
  obtain ⟨k, hk, left⟩ := List.mem_filterMap.1 hm
  rw [Mark.upTo?] at left
  split at left
  · rw [← Option.some.inj left]
    exact h k hk
  · cases left

theorem InStyles.retext (t : Text) : (s.retext t).InStyles P := by
  rw [Styled.retext]
  split
  · exact h.upTo t.length
  · exact h

theorem InStyles.of_mem_zipWith {starts stops : List Nat} {line : Styled} (hl : line ∈ List.zipWith s.part starts stops) :
    line.InStyles P := by
  rw [← List.map_uncurry_zip_eq_zipWith] at hl
  obtain ⟨⟨start, stop⟩, -, rfl⟩ := List.mem_map.1 hl
  exact h.part start stop

theorem InStyles.of_mem_cutAt {places : List Nat} {line : Styled} (hl : line ∈ s.cutAt places) : line.InStyles P := by
  cases places with
  | nil =>
    obtain rfl := List.mem_singleton.1 hl
    exact h
  | cons place places => exact h.of_mem_zipWith hl

theorem InStyles.of_mem_lines {line : Styled} (hl : line ∈ s.lines) : line.InStyles P := by
  rw [Styled.lines] at hl
  split at hl
  · obtain rfl := List.mem_singleton.1 hl
    exact h
  · exact h.of_mem_zipWith hl

theorem InStyles.upToStop : s.upToStop.InStyles P := by
  intro m hm
  obtain ⟨k, hk, rfl⟩ := List.mem_map.1 hm
  have style := h k hk
  split <;> exact style

omit h in
theorem InStyles.join {ss : List Styled} (each : ∀ s ∈ ss, s.InStyles P) : (Styled.join ss).InStyles P := by
  induction ss with
  | nil => exact fun m hm => absurd hm List.not_mem_nil
  | cons s ss ih =>
    have rest := ih fun t ht => each t (List.mem_cons_of_mem s ht)
    intro m hm
    rw [Styled.join] at hm
    rcases List.mem_append.1 hm with hm | hm
    · exact each s List.mem_cons_self m hm
    · obtain ⟨k, hk, rfl⟩ := List.mem_map.1 hm
      exact rest k hk

theorem InStyles.expandTabs : s.expandTabs.InStyles P := by
  rw [Styled.expandTabs]
  split
  · apply InStyles.join
    intro t ht
    obtain ⟨u, hu, rfl⟩ := List.mem_map.1 ht
    have cut : u ∈ s.cutAt ((placesOf '\t' s.text).map (· + 1)) := by
      split at hu
      · exact (List.dropLast_sublist _).subset hu
      · exact hu
    split
    · exact (h.of_mem_cutAt cut).upToStop
    · exact h.of_mem_cutAt cut
  · exact h

theorem InStyles.withoutExcess (width : Nat) : (s.withoutExcess width).InStyles P := by
  simp only [Styled.withoutExcess]
  split
  · exact h
  · exact h.upTo _

theorem InStyles.truncated (width : Nat) (overflow : Overflow) : (s.truncated width overflow).InStyles P := by
  unfold Styled.truncated
  split
  · split
    · exact h.retext _
    · exact h.retext _
  · exact h

/-- The lines that a text takes have no other styles than the text. -/
theorem InStyles.of_mem_wrapped {width : Nat} {overflow : Overflow} {line : Styled}
    (hl : line ∈ s.wrapped width overflow) : line.InStyles P := by
  obtain ⟨whole, hw, hl⟩ := List.mem_flatMap.1 hl
  obtain ⟨part, hp, rfl⟩ := List.mem_map.1 hl
  have cut := (h.of_mem_lines hw).expandTabs.of_mem_cutAt hp
  exact (cut.withoutExcess width).truncated width overflow

end Lines

/-- Styles that can be read. -/
def Sound (s : Styled) : Prop := s.InStyles fun style => Style.fault? style = none

theorem fault?_eq_none {s : Styled} : s.fault? = none ↔ s.Sound := by
  rw [fault?, List.findSome?_eq_none_iff]
  rfl

theorem sound_of_marks_eq_nil {s : Styled} (h : s.marks = []) : s.Sound := by
  intro m hm
  rw [h] at hm
  exact absurd hm List.not_mem_nil

end Styled

/-- What the screen sets off by itself has no style of its own. -/
theorem sound_highlighted {s : Styled} (h : s.Sound) : Styled.Sound ⟨s.text, Highlight.marks s.text ++ s.marks⟩ := by
  intro m hm
  rcases List.mem_append.1 hm with hm | hm
  · obtain ⟨⟨start, stop⟩, -, made⟩ := List.mem_filterMap.1 hm
    simp only at made
    split at made
    · have plain : Style.fault? [] = none := by decide
      rw [← Option.some.inj made]
      exact plain
    · cases made
  · exact h m hm

/-- Markup is printed if it can be read and its styles can. -/
theorem printedMarkup_of_sound {t : Text} {s : Styled} (width : Nat) (rendered : Markup.render t = .ok s)
    (h : s.Sound) : ∃ lines, printedMarkup width t = .ok lines := by
  have highlighted := sound_highlighted h
  have none_faulty : (Styled.wrapped width .fold ⟨s.text, Highlight.marks s.text ++ s.marks⟩).findSome?
      (·.fault?) = none := by
    rw [List.findSome?_eq_none_iff]
    intro line hl
    exact Styled.fault?_eq_none.2 (highlighted.of_mem_wrapped hl)
  rw [printedMarkup, rendered]
  simp only [none_faulty]
  exact ⟨_, rfl⟩

theorem printedMarkup_of_unread {t : Text} {f : Markup.Fault} (width : Nat) (unread : Markup.render t = .error f) :
    printedMarkup width t = .error f := by
  rw [printedMarkup, unread]

/-- Escaped text behind a text without brackets is printed, on a screen of any width. -/
theorem printedMarkup_escape {opening : Text} (plain : Markup.Plain opening) (t : Text) (width : Nat) :
    ∃ lines, printedMarkup width (opening ++ Markup.escape t) = .ok lines := by
  obtain ⟨shown, rendered⟩ := Markup.render_escape plain t
  exact printedMarkup_of_sound width rendered (Styled.sound_of_marks_eq_nil rfl)

/-- A table is shown if the styles in its cells can be read. -/
theorem Table.lines_of_sound {t : Table} (screen : Nat) (h : ∀ row ∈ t.rows, ∀ cell ∈ row, cell.Sound) :
    ∃ lines, t.lines screen = .ok lines := by
  have none_faulty : t.fault? (t.widths screen) = none := by
    rw [Table.fault?, List.findSome?_eq_none_iff]
    intro row hrow
    rw [List.findSome?_eq_none_iff]
    intro cell hcell
    rw [← List.map_uncurry_zip_eq_zipWith] at hcell
    obtain ⟨⟨width, own⟩, both, rfl⟩ := List.mem_map.1 hcell
    have sound := h row hrow own (List.of_mem_zip both).2
    rw [List.findSome?_eq_none_iff]
    intro line hl
    obtain ⟨part, hp, rfl⟩ := List.mem_map.1 hl
    have wrapped : part.Sound := sound.of_mem_wrapped hp
    exact Styled.fault?_eq_none.2 wrapped
  rw [Table.lines]
  simp only [none_faulty]
  exact ⟨_, rfl⟩

end DependencyAudit.Console
