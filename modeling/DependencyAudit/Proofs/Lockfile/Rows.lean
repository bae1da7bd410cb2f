import DependencyAudit.Text.Lines

namespace DependencyAudit

namespace Text

/-- A text that can be a row: it has no line feed, and no carriage return at its end that would go with one. -/
structure IsRow (t : Text) : Prop where
  no_feed : '\n' ∉ t
  no_return : t.getLast? ≠ some '\r'

/-- Rows as one text; which breaks are a carriage return with a line feed is free, counted from the end. -/
def ofRows (paired : Nat → Bool) : List Text → Text
  | [] => []
  | [t] => t
  | t :: u :: us => t ++ (if paired us.length then ['\r', '\n'] else ['\n']) ++ ofRows paired (u :: us)

theorem rows_cons_other {c : Char} {r : Text} (hc : c ≠ '\n') (apart : c = '\r' → ∀ s, r ≠ '\n' :: s) :
    rows (c :: r) = pushFirst c (rows r) := by
  rw [rows, if_neg hc]
  intro s h
  exact apart h s

theorem rows_of_no_feed {t : Text} (h : '\n' ∉ t) : rows t = [t] := by
  induction t with
  | nil => rfl
  | cons c t ih =>
    have hc : '\n' ≠ c := List.ne_of_not_mem_cons h
    have ht : '\n' ∉ t := List.not_mem_of_not_mem_cons h
    rw [rows_cons_other (hc.symm), ih ht]
    · rfl
    · rintro _ s rfl
      exact ht List.mem_cons_self

/-- A row ends at its break. -/
theorem rows_append_feed {t : Text} (h : IsRow t) (r : Text) : rows (t ++ '\n' :: r) = t :: rows r := by
  induction t with
  | nil => rfl
  | cons c t ih =>
    have hc : '\n' ≠ c := List.ne_of_not_mem_cons h.no_feed
    have ht : '\n' ∉ t := List.not_mem_of_not_mem_cons h.no_feed
    have rest : IsRow t := by
      refine ⟨ht, ?_⟩
      intro last
      apply h.no_return
      rw [List.getLast?_cons, last]
      rfl
    rw [List.cons_append, rows_cons_other (hc.symm), ih rest]
    · rfl
    · rintro rfl s starts
      cases t with
      | nil => exact h.no_return rfl
      | cons d t =>
        obtain ⟨rfl, -⟩ := List.cons.inj starts
        exact ht List.mem_cons_self

theorem rows_append_pair {t : Text} (h : '\n' ∉ t) (r : Text) : rows (t ++ '\r' :: '\n' :: r) = t :: rows r := by
  induction t with
  | nil => rfl
  | cons c t ih =>
    have hc : '\n' ≠ c := List.ne_of_not_mem_cons h
    have ht : '\n' ∉ t := List.not_mem_of_not_mem_cons h
    rw [List.cons_append, rows_cons_other (hc.symm), ih ht]
    · rfl
    · rintro _ s starts
      cases t with
      | nil => cases starts
      | cons d t =>
        obtain ⟨rfl, -⟩ := List.cons.inj starts
        exact ht List.mem_cons_self

/-- Rows are read back whatever breaks they were put together with. -/
theorem rows_ofRows (paired : Nat → Bool) {ts : List Text} (ne : ts ≠ []) (h : ∀ t ∈ ts, IsRow t) :
    rows (ofRows paired ts) = ts := by
  induction ts with
  | nil => exact absurd rfl ne
  | cons t ts ih =>
    have row := h t List.mem_cons_self
    cases ts with
    | nil => exact rows_of_no_feed row.no_feed
    | cons u us =>
      have rest := ih (List.cons_ne_nil u us) fun v hv => h v (List.mem_cons_of_mem t hv)
      rw [ofRows, List.append_assoc]
      split
      · rw [List.cons_append, List.cons_append, List.nil_append, rows_append_pair row.no_feed, rest]
      · rw [List.cons_append, List.nil_append, rows_append_feed row, rest]

end Text

end DependencyAudit
