import DependencyAudit.Proofs.Record.Line
import DependencyAudit.Watchlist.Basic

namespace DependencyAudit.Record

/-- The texts that write records one a line, in order. Any line break may end a line but the last, and void lines may
stand anywhere. -/
inductive Written : List Record → Text → Prop
  | lastVoid {line : Text} (one : Text.IsLine line) (void : IsVoid line) : Written [] line
  | last {r : Record} {line : Text} (stated : r.StatedBy line) : Written [r] line
  | void {rs : List Record} {line b rest : Text} (one : Text.IsLine line) (void : IsVoid line) (ends : Text.IsBreak b)
      (behind : Written rs rest) : Written rs (line ++ (b ++ rest))
  | cons {r : Record} {rs : List Record} {line b rest : Text} (stated : r.StatedBy line) (ends : Text.IsBreak b)
      (behind : Written rs rest) : Written (r :: rs) (line ++ (b ++ rest))

/-- Records in the plainest writing. -/
def render (rs : List Record) : Text := rs.flatMap fun r => r.name ++ (':' :: ' ' :: (r.version ++ ['\n']))

variable {rs : List Record} {t : Text}

/-- What is written is read back. -/
theorem Written.readAll_eq (h : Written rs t) (listable : ∀ r ∈ rs, r.IsListable) : readAll t = rs := by
  induction h with
  | lastVoid one void => rw [readAll_of_isLine one, void.ofLine?_eq, Option.toList_none]
  | @last r line stated =>
    have own : r.IsListable := listable r List.mem_cons_self
    rw [readAll_of_isLine (stated.isLine own), stated.ofLine?_eq own, Option.toList_some]
  | void one void ends behind ih =>
    rw [readAll_append_break ends, readAll_of_isLine one, void.ofLine?_eq, Option.toList_none, List.nil_append,
      ih listable]
  | @cons r rs line b rest stated ends behind ih =>
    have own : r.IsListable := listable r List.mem_cons_self
    have others := ih fun s hs => listable s (List.mem_cons_of_mem r hs)
    rw [readAll_append_break ends, readAll_of_isLine (stated.isLine own), stated.ofLine?_eq own, Option.toList_some,
      others, List.singleton_append]

/-- Every text writes the records that are read from it. -/
theorem written_readAll (t : Text) : Written (readAll t) t := by
  induction t using Text.break_induction with
  | line t one =>
    rw [readAll_of_isLine one]
    cases read : ofLine? t with
    | none => exact .lastVoid one (isVoid_of_ofLine? one read)
    | some r => exact .last (statedBy_of_ofLine? one read)
  | step t c rest one isBreak ih =>
    rw [readAll_line_break one isBreak]
    have ends : Text.IsBreak [c] := .single isBreak
    cases read : ofLine? t with
    | none => exact .void one (isVoid_of_ofLine? one read) ends ih
    | some r => exact .cons (statedBy_of_ofLine? one read) ends ih

/-- A text is read as some records exactly if they can be written and the text writes them. -/
theorem readAll_eq_iff : readAll t = rs ↔ (∀ r ∈ rs, r.IsListable) ∧ Written rs t := by
  constructor
  · rintro rfl
    exact ⟨fun r hr => isListable_of_mem hr, written_readAll t⟩
  · rintro ⟨listable, written⟩
    exact written.readAll_eq listable

theorem written_render (rs : List Record) : Written rs (render rs) := by
  induction rs with
  | nil => exact .lastVoid .nil (.blank rfl)
  | cons r rs ih =>
    have nothing : Text.IsSpacing [] := fun c hc => absurd hc List.not_mem_nil
    have space : Text.IsSpacing [' '] := by
      intro c hc
      obtain rfl := List.mem_singleton.1 hc
      exact ⟨rfl, rfl⟩
    have stated := StatedBy.mk (r := r) nothing nothing space nothing
    have feed : Text.IsBreak ['\n'] := .single rfl
    have whole := Written.cons stated feed ih
    simpa [render] using whole

/-- The records of a list are those that can be written in one: whatever is read can be, and whatever of that is written,
with whichever blanks, line breaks and void lines, is read back in its order. Every text is such a writing of its own
records, so that writing these again, in the plainest way or in any other, changes nothing. -/
theorem readAll_written :
    (∀ t, ∀ r ∈ readAll t, r.IsListable) ∧
    (∀ rs t, (∀ r ∈ rs, r.IsListable) → Written rs t → readAll t = rs) ∧
    (∀ rs, Written rs (render rs)) ∧
    (∀ t, Written (readAll t) t) ∧
    ∀ t u, Written (readAll t) u → readAll u = readAll t ∧ Watchlist.parse u = Watchlist.parse t := by
  refine ⟨fun t r => isListable_of_mem, ?_, written_render, written_readAll, ?_⟩
  · intro rs t listable written
    exact readAll_eq_iff.2 ⟨listable, written⟩
  · intro t u written
    have same : readAll u = readAll t := readAll_eq_iff.2 ⟨fun r => isListable_of_mem, written⟩
    exact ⟨same, by rw [Watchlist.parse, same, Watchlist.parse]⟩

/-- A carriage return and a line feed around a blank line, a name that starts with a colon, and other breaks and blanks. -/
theorem readAll_written_scoped :
    let rs : List Record := [⟨"@a/b:c".toList, "1.0".toList⟩, ⟨":x".toList, "#2".toList⟩]
    let t : Text := "# note: 1\r\n\x1f @a/b:c\u00a0:\t1.0 \u2028:x\x0b:x:#2".toList
    (∀ r ∈ rs, r.IsListable) ∧ Written rs t ∧ readAll t = rs ∧ readAll (render rs) = rs ∧
      Watchlist.parse (render rs) = Watchlist.parse t := by
  intro rs t
  have listable : ∀ r ∈ rs, r.IsListable := by
    intro r hr
    rcases List.mem_cons.1 hr with rfl | hr
    · decide
    · obtain rfl := List.mem_singleton.1 hr
      decide
  have ends {c : Char} (h : Text.isLineBreak c = true) : Text.IsBreak [c] := .single h
  have spaced : StatedBy ⟨"@a/b:c".toList, "1.0".toList⟩ "\x1f @a/b:c\u00a0:\t1.0 ".toList :=
    @StatedBy.mk _ "\x1f ".toList "\u00a0".toList "\t".toList " ".toList (by decide) (by decide) (by decide) (by decide)
  have colon : StatedBy ⟨":x".toList, "#2".toList⟩ ":x:#2".toList :=
    @StatedBy.mk _ [] [] [] [] (by decide) (by decide) (by decide) (by decide)
  have malformed : Written [⟨":x".toList, "#2".toList⟩] (":x".toList ++ (['\x0b'] ++ ":x:#2".toList)) :=
    .void (by decide) (.noColon (by decide)) (ends rfl) (.last colon)
  have blank : Written rs ([] ++ (['\n'] ++ ("\x1f @a/b:c\u00a0:\t1.0 ".toList ++ (['\u2028'] ++ _)))) :=
    .void (by decide) (.blank rfl) (ends rfl) (.cons spaced (ends rfl) malformed)
  have commented : Written rs ("# note: 1".toList ++ (['\r'] ++ _)) :=
    .void (by decide) (.comment (by decide)) (ends rfl) blank
  have written : Written rs t := commented
  obtain ⟨-, reads, renders, -, again⟩ := readAll_written
  have read : readAll t = rs := reads rs t listable written
  obtain ⟨same, watchlist⟩ := again t (render rs) (read ▸ renders rs)
  exact ⟨listable, written, read, same.trans read, watchlist⟩

end DependencyAudit.Record
