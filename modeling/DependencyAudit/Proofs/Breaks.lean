import DependencyAudit.Text.Lines

namespace DependencyAudit.Text

/-- A text that no line break parts. -/
def IsLine (t : Text) : Prop := ∀ c ∈ t, isLineBreak c = false

instance (t : Text) : Decidable (IsLine t) := decidable_of_iff (t.all (fun c => !isLineBreak c) = true) (by simp [IsLine])

/-- What can end a line of a list: a line break, or a carriage return with its line feed. -/
inductive IsBreak : Text → Prop
  | single {c : Char} (h : isLineBreak c = true) : IsBreak [c]
  | pair : IsBreak ['\r', '\n']

theorem IsLine.nil : IsLine [] := fun _ hc => absurd hc List.not_mem_nil

theorem isLine_append {s t : Text} : IsLine (s ++ t) ↔ IsLine s ∧ IsLine t := List.forall_mem_append

theorem isLine_cons {c : Char} {t : Text} : IsLine (c :: t) ↔ isLineBreak c = false ∧ IsLine t := List.forall_mem_cons

/-- What holds of lines, and of a line with a text behind a line break if it holds of that text, holds of every text. -/
theorem break_induction {p : Text → Prop} (line : ∀ t, IsLine t → p t)
    (step : ∀ t c rest, IsLine t → isLineBreak c = true → p rest → p (t ++ c :: rest)) (t : Text) : p t := by
  have behind (u : Text) (one : IsLine u) : p (u ++ t) := by
    induction t generalizing u with
    | nil =>
      rw [List.append_nil]
      exact line u one
    | cons c t ih =>
      cases isBreak : isLineBreak c with
      | true => exact step u c t one isBreak (ih [] .nil)
      | false =>
        have longer : IsLine (u ++ [c]) := isLine_append.2 ⟨one, isLine_cons.2 ⟨isBreak, .nil⟩⟩
        have whole := ih (u ++ [c]) longer
        rwa [List.append_assoc] at whole
  exact behind [] .nil

theorem lines_cons_break {c : Char} {r : Text} (hc : isLineBreak c = true)
    (apart : ∀ s, c = '\r' → r ≠ '\n' :: s) : lines (c :: r) = [] :: lines r := by
  rw [lines, if_pos hc]
  intro s h hr
  exact apart s h hr

theorem lines_cons_other {c : Char} {r : Text} (hc : isLineBreak c = false) :
    lines (c :: r) = pushFirst c (lines r) := by
  rw [lines, if_neg (Bool.eq_false_iff.1 hc)]
  rintro s rfl
  exact absurd hc (by decide)

/-- A line in front goes on into the first line of a text. -/
theorem lines_append {t s : Text} (one : IsLine t) {rest : List Text} (h : lines s = [] :: rest) :
    lines (t ++ s) = t :: rest := by
  induction t with
  | nil => exact h
  | cons c t ih =>
    obtain ⟨here, further⟩ := isLine_cons.1 one
    rw [List.cons_append, lines_cons_other here, ih further]
    rfl

theorem lines_of_isLine {t : Text} (one : IsLine t) : lines t = [] ∧ t = [] ∨ lines t = [t] := by
  induction t with
  | nil => exact .inl ⟨rfl, rfl⟩
  | cons c t ih =>
    right
    obtain ⟨here, further⟩ := isLine_cons.1 one
    rw [lines_cons_other here]
    rcases ih further with ⟨none_left, rfl⟩ | whole
    · rfl
    · rw [whole]
      rfl

theorem unifyBreaks_return {r : Text} (apart : ∀ s, r ≠ '\n' :: s) : unifyBreaks ('\r' :: r) = '\n' :: unifyBreaks r := by
  rw [unifyBreaks, if_pos rfl]
  intro s _ feed
  exact apart s feed

theorem unifyBreaks_cons_other {c : Char} (h : c ≠ '\r') (r : Text) : unifyBreaks (c :: r) = c :: unifyBreaks r := by
  rw [unifyBreaks, if_neg h]
  intro s ret
  exact absurd ret h

theorem unifyBreaks_append {s : Text} (h : '\r' ∉ s) (t : Text) : unifyBreaks (s ++ t) = s ++ unifyBreaks t := by
  induction s with
  | nil => rfl
  | cons c s ih =>
    have other : c ≠ '\r' := fun same => h (same ▸ List.mem_cons_self)
    have rest := ih fun mem => h (List.mem_cons_of_mem c mem)
    rw [List.cons_append, unifyBreaks_cons_other other, rest, List.cons_append]

theorem IsLine.return_not_mem {t : Text} (one : IsLine t) : '\r' ∉ t := fun mem => absurd (one _ mem) (by decide)

theorem unifyBreaks_of_isLine {t : Text} (one : IsLine t) : unifyBreaks t = t := by
  have kept := unifyBreaks_append one.return_not_mem []
  rwa [List.append_nil, unifyBreaks, List.append_nil] at kept

end DependencyAudit.Text
