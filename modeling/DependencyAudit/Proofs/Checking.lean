import DependencyAudit.Command.Lookup
import DependencyAudit.Proofs.ExitCode
import DependencyAudit.Proofs.Watchlist.Loading

namespace DependencyAudit

/-- Without a null character in its path, a list that is not loaded is one that cannot be read. -/
theorem ListSource.load_eq_error {fs : FileSystem} {source : ListSource} {f : Failure}
    (clean : ∀ p, source = .file p → Name.null ∉ p.text) (h : source.load fs = .error f) :
    ∃ path fault, f = .listUnreadable path fault := by
  cases source with
  | packaged => cases h
  | file p =>
    rcases load_cases fs p with ⟨t, -, loaded⟩ | ⟨bytes, fault, -, -, loaded⟩ | ⟨e, -, loaded⟩ | ⟨opened, -⟩
    · rw [loaded] at h
      cases h
    · rw [loaded] at h
      exact ⟨p.text, .undecodable fault, (Except.error.inj h).symm⟩
    · rw [loaded] at h
      exact ⟨p.text, .os e, (Except.error.inj h).symm⟩
    · exact absurd (FileSystem.openFile_eq_nullByte.1 opened) (clean p rfl)

namespace Command

section Lines

variable {screen : Console.Screen} (lawful : screen.Lawful)

include lawful

theorem shows_errorLine {f : Failure} (text : Name.isText f.message = true) : screen.Shows (errorLine f) :=
  lawful.styled "red".toList (by decide) "Error: ".toList f.message [] (by decide) (by decide) text

theorem shows_listedLine (package version : Text) : screen.Shows (listedLine package version) :=
  lawful.styled "red".toList (by decide) [] _ " is compromised".toList (by decide) (by decide) (by simp)

theorem shows_unlistedLine (package version : Text) : screen.Shows (unlistedLine package version) :=
  lawful.styled "green".toList (by decide) [] _ " is not on the compromised list".toList (by decide) (by decide)
    (by simp)

variable {package : Text} {versions : List Text}

/-- The listed versions of a package are shown unless its name makes a tag with them. -/
theorem shows_knownLine (apart : ∀ sign, ¬ Markup.TagAcross sign package (Text.joinWith ", " versions)) :
    screen.Shows (knownLine package versions) :=
  lawful.pair "  Compromised versions of ".toList package _ (by decide) apart

theorem knownLine_fault (across : Markup.TagAcross '/' package (Text.joinWith ", " versions))
    (slashless : '\\' ∉ package) : ∃ f, screen.shown (knownLine package versions) = .error f :=
  lawful.across "  Compromised versions of ".toList package _ (by decide) across slashless

end Lines

section Check

variable {s : Surroundings} {name version : Text} {listFile : Option Path} {w : Watchlist}

theorem check_of_unread {path : Name} {fault : ReadFault}
    (h : (ListSource.ofFile? listFile).load s.site.files = .error (.listUnreadable path fault)) :
    check s name version listFile =
      (Printing.blank.put s.screen (errorLine (.listUnreadable path fault))).outcome 2 [] s.site.files := by
  simp only [check, h, listFailed]
  rfl

theorem ending_of_unread (lawful : s.screen.Lawful) {path : Name} {fault : ReadFault}
    (h : (ListSource.ofFile? listFile).load s.site.files = .error (.listUnreadable path fault))
    (text : Name.isText (Failure.listUnreadable path fault).message = true) :
    (check s name version listFile).ending = .exited 2 := by
  rw [check_of_unread h]
  exact Printing.ending_of_whole (Printing.fault_put (p := .blank) rfl (shows_errorLine lawful text)) ..

theorem ending_or_isCut_of_unread {path : Name} {fault : ReadFault}
    (h : (ListSource.ofFile? listFile).load s.site.files = .error (.listUnreadable path fault)) :
    (check s name version listFile).ending = .exited 2 ∨ (check s name version listFile).IsCut := by
  rw [check_of_unread h]
  exact Printing.ending_outcome ..

variable (lawful : s.screen.Lawful) (h : (ListSource.ofFile? listFile).load s.site.files = .ok w)

include lawful h

theorem check_of_listed (listed : w.flags name version = true) :
    (check s name version listFile).ending = .exited 1 := by
  simp only [check, h, if_pos listed]
  exact Printing.ending_of_whole (Printing.fault_put (p := .blank) rfl (shows_listedLine lawful name version)) ..

variable (unlisted : w.flags name version = false)

include unlisted

theorem check_of_unlisted : ∃ (told : Printing) (log : List Log.Entry), told.fault = none ∧
    check s name version listFile =
      (if w.versionsOf name = [] then told else told.put s.screen (knownLine name (w.versionsOf name))).outcome
        Verdict.clean.exitCode log s.site.files := by
  refine ⟨_, Log.passing lookupLevel (s.readingNotes ++ [(ListSource.ofFile? listFile).loaded w]),
    Printing.fault_put (p := .blank) rfl (shows_unlistedLine lawful name version), ?_⟩
  simp only [check, h, unlisted, Bool.false_eq_true, if_false]

theorem check_of_known (known : s.screen.Shows (knownLine name (w.versionsOf name))) :
    (check s name version listFile).ending = .exited 0 := by
  obtain ⟨told, log, whole, ends⟩ := check_of_unlisted lawful h unlisted
  rw [ends]
  apply Printing.ending_of_whole
  split
  · exact whole
  · exact Printing.fault_put whole known

/-- What is listed of the package can spoil the check of a version that is not. -/
theorem check_of_spoilt {f : Console.Fault} (spoilt : s.screen.shown (knownLine name (w.versionsOf name)) = .error f) :
    (check s name version listFile).ending = .escaped (.screen f) := by
  obtain ⟨told, log, whole, ends⟩ := check_of_unlisted lawful h unlisted
  have some_known : w.versionsOf name ≠ [] := by
    intro none_known
    have apart : ∀ sign, ¬ Markup.TagAcross sign name (Text.joinWith ", " (w.versionsOf name)) := by
      rintro sign ⟨-, -, closing⟩
      rw [none_known] at closing
      cases closing
    obtain ⟨lines, known⟩ := shows_knownLine lawful apart
    rw [known] at spoilt
    cases spoilt
  rw [ends, if_neg some_known]
  apply Printing.ending_of_cut
  unfold Printing.put
  rw [whole, spoilt]

end Check

end Command

end DependencyAudit
