import DependencyAudit.Command.Request
import DependencyAudit.Proofs.CodePoint
import DependencyAudit.Proofs.Text

namespace DependencyAudit

/-- A path has no code points that it was not written with, but for those that paths are made of. -/
theorem Path.mem_text_ofText {t : Name} {p : CodePoint} (h : p ∈ (Path.ofText t).text) :
    p ∈ t ∨ p = .scalar '.' ∨ p = Name.slash := by
  rw [text] at h
  split at h
  · exact .inr (.inl (List.mem_singleton.1 h))
  · rcases List.mem_append.1 h with h | h
    · right
      right
      cases anchor : (ofText t).anchor with
      | relative =>
        rw [anchor] at h
        exact absurd h List.not_mem_nil
      | root =>
        rw [anchor] at h
        exact List.mem_singleton.1 h
      | doubleRoot =>
        rw [anchor] at h
        simpa [Anchor.text] using h
    · rcases mem_intercalate h with ⟨n, hn, h⟩ | h
      · left
        have part : n ∈ t.splitOn Name.slash := List.mem_of_mem_filter hn
        have whole : Path.joined (t.splitOn Name.slash) = t := List.intercalate_splitOn Name.slash
        rw [← whole]
        exact mem_intercalate_of_mem part h
      · exact .inr (.inr (List.mem_singleton.1 h))

theorem Path.isText_ofText {t : Name} (h : Name.isText t = true) : Name.isText (Path.ofText t).text = true := by
  rw [Name.isText_iff] at h ⊢
  intro p hp
  rcases mem_text_ofText hp with hp | rfl | rfl
  · exact h p hp
  · rfl
  · rfl

namespace Command

variable {vars : Variables} {words : List Text} {r : Request}

/-- What is asked is asked with a verb, unless it is help. -/
theorem Request.exists_verb {help : Bool} (h : read? vars help words = some r) :
    r = .help ∨ ∃ (v : Verb) (ws : Words), v.request? vars ws = some r := by
  induction words generalizing help with
  | nil =>
    rw [read?] at h
    split at h
    · exact .inl (Option.some.inj h).symm
    · cases h
  | cons w words ih =>
    rw [read?] at h
    split at h
    · split at h
      · exact ih h
      · cases h
    · split at h
      · exact .inl (Option.some.inj h).symm
      · simp only at h
        split at h
        · cases h
        · split at h
          · cases h
          · rename_i v _
            obtain ⟨ws, -, asked⟩ := Option.bind_eq_some_iff.1 h
            exact .inr ⟨v, ws, asked⟩

/-- A way to read command lines by which the path of a list is asked for without null characters. -/
def Request.IsClean (read : Variables → List Text → Option Request) : Prop :=
  ∀ vars words name version p, read vars words = some (.check name version (some p)) → Name.null ∉ p.text

theorem Request.isClean_ofWords? : IsClean ofWords? := by
  intro vars words name version p h
  rcases exists_verb h with help | ⟨v, ws, asked⟩
  · cases help
  · simp only [Verb.request?] at asked
    split at asked
    · cases asked
    · split at asked
      · cases asked
      · rename_i clean
        split at asked
        · cases asked
        · split at asked
          · cases asked
          · rename_i _ package version' _ _
            obtain ⟨-, -, given⟩ := Request.check.inj (Option.some.inj asked)
            obtain ⟨value, stated, rfl⟩ := Option.map_eq_some_iff.1 given
            intro null
            apply clean
            have mem : '\x00' ∈ value := by
              rcases Path.mem_text_ofText null with mem | dot | slash
              · exact CodePoint.mem_ofText.1 mem
              · exact absurd dot (by decide)
              · exact absurd slash (by decide)
            simp [Verb.settings, Setting.isPath, stated, mem]
          · cases asked
          · cases asked

end Command

end DependencyAudit
