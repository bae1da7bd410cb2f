import DependencyAudit.Command.Run
import DependencyAudit.Proofs.Asked
import DependencyAudit.Proofs.SavedReport
import DependencyAudit.Proofs.StandingClock
import DependencyAudit.Proofs.Verdict

namespace DependencyAudit

namespace Console

theorem isPlain_append (t u : Text) : isPlain (t ++ u) = (isPlain t && isPlain u) := List.all_append

theorem isPlain_decimal (n : Nat) : isPlain (Text.decimal n) = true := by
  rw [isPlain, List.all_eq_true]
  intro c hc
  have digit : Json.isDigit c = true := Json.decimal_isDigit c hc
  have other {d : Char} (hd : Json.isDigit d = false) : c ≠ d := by
    rintro rfl
    rw [digit] at hd
    cases hd
  simp [other (d := '\\') rfl, other (d := '[') rfl, other (d := ']') rfl]

end Console

namespace Report

variable {r : Report}

instance : Decidable r.IsText :=
  decidable_of_iff (Name.isText r.root.text = true ∧ (∀ f ∈ r.findings, Name.isText f.file.text = true) ∧
    ∀ c ∈ r.scanned, Name.isText c.path.text = true)
    ⟨fun h => ⟨h.1, h.2.1, h.2.2⟩, fun h => ⟨h.root, h.findings, h.scanned⟩⟩

theorem exitCode_ne_two (r : Report) : r.verdict.exitCode ≠ 2 := by
  rw [verdict, Verdict.ofCounts]
  split
  · decide
  · split <;> decide

theorem meta?_exitCode (r : Report) : r.meta? "exitCode".toList = some (.integer r.verdict.exitCode) := rfl

theorem isPlain_title (r : Report) : Console.isPlain r.title = true := by
  rw [title]
  split
  · rw [Console.isPlain_append, Console.isPlain_append, Console.isPlain_decimal]
    rfl
  · split <;> decide

theorem isText_facts (h : Name.isText r.root.text = true) : Name.isText r.facts = true := by
  rw [facts, Name.isText_append, Name.isText_append, h, Name.isText_ofText, Name.isText_ofText]
  rfl

/-- A report whose paths are text is shown. -/
theorem shows_items {screen : Console.Screen} (lawful : screen.Lawful) (text : r.IsText) :
    ∀ item ∈ r.items, screen.Shows item := by
  have count {what : Text} (plain : Console.isPlain what = true) (n : Nat) :
      screen.Shows (.line [.markup (what ++ Text.decimal n)]) := by
    apply lawful.markup
    rw [Console.isPlain_append, plain, Console.isPlain_decimal]
    rfl
  intro item hitem
  rcases List.mem_append.1 hitem with hitem | hitem
  · rcases List.mem_append.1 hitem with hitem | hitem
    · rcases List.mem_cons.1 hitem with rfl | hitem
      · exact count (by decide) _
      · obtain rfl := List.mem_singleton.1 hitem
        exact count (by decide) _
    · obtain ⟨f, hf, rfl⟩ := List.mem_map.1 hitem
      apply lawful.strings
      simp [text.findings f hf]
  · obtain rfl := List.mem_singleton.1 hitem
    apply lawful.panel
    · simpa using r.isPlain_title
    · simpa using isText_facts text.root

end Report

namespace Command

/-- The settings of a scan and its report, or why the settings cannot be made or the scan ends without a report. -/
def attempt (s : Surroundings) (o : ScanOptions) : Except Failure (Audit.Config × Report) :=
  (o.config s.site.files).bind fun config => (Audit.scan s.site config none none).result.map fun r => (config, r)

variable {s : Surroundings} {o : ScanOptions} {config : Audit.Config} {r : Report}

theorem result_audit (s : Surroundings) (o : ScanOptions) :
    (audit s o).result = (attempt s o).map fun (config, r) => (config.jsonOut, r) := by
  rw [audit, attempt]
  cases o.config s.site.files with
  | error f => rfl
  | ok config =>
    simp only [Except.bind]
    cases (Audit.scan s.site config none none).result <;> rfl

theorem shows_failureTold {screen : Console.Screen} (lawful : screen.Lawful) {f : Failure}
    (text : Name.isText f.message = true) : screen.Shows (failureTold f).1 := by
  rw [failureTold]
  split
  · apply lawful.panel
    · simp
    · simp [text]
  · apply lawful.panel
    · simp
    · split <;> simp

/-- Something that the run does not report has ended it. -/
def Outcome.IsCut (out : Outcome) : Prop := ∃ e, out.ending = .escaped e

namespace Outcome

variable {out : Outcome}

theorem exitCode_of_exited {code : Nat} (h : out.ending = .exited code) : out.exitCode = code := by
  rw [exitCode, h]
  rfl

theorem not_isCut_of_exited {code : Nat} (h : out.ending = .exited code) : ¬ out.IsCut := by
  rintro ⟨e, cut⟩
  rw [h] at cut
  cases cut

theorem IsCut.exitCode (h : out.IsCut) : out.exitCode = 1 := by
  obtain ⟨e, cut⟩ := h
  rw [Outcome.exitCode, cut]
  rfl

end Outcome

namespace Printing

variable {p : Printing}

theorem outcome_of_whole (h : p.fault = none) (code : Nat) (log : List Log.Entry) (files : FileSystem) :
    p.outcome code log files = ⟨.exited code, p.lines, log, files, none⟩ := by
  rw [outcome, h]

theorem ending_of_whole (h : p.fault = none) (code : Nat) (log : List Log.Entry) (files : FileSystem) :
    (p.outcome code log files).ending = .exited code := by
  rw [outcome_of_whole h]

theorem ending_of_cut {f : Escape} (h : p.fault = some f) (code : Nat) (log : List Log.Entry) (files : FileSystem) :
    (p.outcome code log files).ending = .escaped f := by
  rw [outcome, h]

theorem ending_outcome (p : Printing) (code : Nat) (log : List Log.Entry) (files : FileSystem) :
    (p.outcome code log files).ending = .exited code ∨ (p.outcome code log files).IsCut := by
  cases h : p.fault with
  | none => exact .inl (ending_of_whole h ..)
  | some f => exact .inr ⟨f, ending_of_cut h ..⟩

theorem outcome_files (p : Printing) (code : Nat) (log : List Log.Entry) (files : FileSystem) :
    (p.outcome code log files).files = files ∧ (p.outcome code log files).written = none := by
  rw [outcome]
  split <;> exact ⟨rfl, rfl⟩

end Printing

/-- A report has ended the run that is neither saved nor refused by the files: its path has a null character, or a count
in it too many digits. -/
def Outcome.IsUnsaved (out : Outcome) (jsonOut : Path) : Prop :=
  ∃ f, out.ending = .escaped (.saving f) ∧
    (f = .refused .nullByte ∧ Name.null ∈ jsonOut.text ∨ f = .unencodable .longInteger)

theorem scan_of_failed {f : Failure} (h : attempt s o = .error f) :
    ∃ log, scan s o = (Printing.blank.put s.screen (failureTold f).1).outcome 2 log s.site.files := by
  have failed := result_audit s o
  rw [h] at failed
  rw [scan, failed]
  exact ⟨_, rfl⟩

theorem ending_of_failed (lawful : s.screen.Lawful) {f : Failure} (h : attempt s o = .error f)
    (text : Name.isText f.message = true) : (scan s o).ending = .exited 2 := by
  obtain ⟨log, ends⟩ := scan_of_failed h
  rw [ends]
  exact Printing.ending_of_whole (Printing.fault_put (p := .blank) rfl (shows_failureTold lawful text)) ..

theorem ending_or_isCut_of_failed {f : Failure} (h : attempt s o = .error f) :
    (scan s o).ending = .exited 2 ∨ (scan s o).IsCut := by
  obtain ⟨log, ends⟩ := scan_of_failed h
  rw [ends]
  exact Printing.ending_outcome ..

section Endings

variable (h : attempt s o = .ok (config, r))

include h

theorem result_of_report : (audit s o).result = .ok (config.jsonOut, r) := by
  rw [result_audit, h]
  rfl

theorem ending_or_isCut_of_report : (scan s o).ending = .exited r.verdict.exitCode ∨ (scan s o).IsCut := by
  rw [scan, result_of_report h]
  simp only
  split
  · exact Printing.ending_outcome ..
  · split
    · exact Printing.ending_outcome ..
    · exact Printing.ending_outcome ..
    · exact .inr ⟨_, rfl⟩

theorem exitCode_ne_two_of_report : (scan s o).exitCode ≠ 2 := by
  rcases ending_or_isCut_of_report h with exited | cut
  · rw [Outcome.exitCode_of_exited exited]
    exact r.exitCode_ne_two
  · rw [cut.exitCode]
    decide

variable (lawful : s.screen.Lawful) (text : r.IsText)

include lawful text

theorem scan_of_saved (named : Name.isText config.jsonOut.text = true) {path : Path}
    (written : (Json.save s.site.files none (some config.jsonOut) r.toJson).result = .ok path) :
    ∃ screen log, scan s o = ⟨.exited r.verdict.exitCode, screen, log,
      (Json.save s.site.files none (some config.jsonOut) r.toJson).files, some path⟩ := by
  have shown := Printing.fault_putAll (p := .blank) rfl (Report.shows_items lawful text)
  obtain ⟨-, -, rfl⟩ := (Json.save_eq_ok rfl).1 written
  have told := Printing.fault_put shown (shows_writtenLine lawful (Path.isText_ofText named))
  rw [scan, result_of_report h]
  simp only [shown, Option.isSome_none, Bool.false_eq_true, if_false, written,
    Printing.outcome_of_whole (Printing.fault_phaseSummary lawful told o)]
  exact ⟨_, _, rfl⟩

theorem scan_of_refused {e : OsError}
    (refused : (Json.save s.site.files none (some config.jsonOut) r.toJson).result = .error (.refused (.os e))) :
    ∃ screen log, scan s o = ⟨.exited r.verdict.exitCode, screen, log,
      (Json.save s.site.files none (some config.jsonOut) r.toJson).files, none⟩ := by
  have shown := Printing.fault_putAll (p := .blank) rfl (Report.shows_items lawful text)
  rw [scan, result_of_report h]
  simp only [shown, Option.isSome_none, Bool.false_eq_true, if_false, refused,
    Printing.outcome_of_whole (Printing.fault_phaseSummary lawful shown o)]
  exact ⟨_, _, rfl⟩

theorem scan_of_cut {f : Json.SaveFault}
    (cut : (Json.save s.site.files none (some config.jsonOut) r.toJson).result = .error f)
    (other : ∀ e, f ≠ .refused (.os e)) :
    ∃ screen log, scan s o = ⟨.escaped (.saving f), screen, log,
      (Json.save s.site.files none (some config.jsonOut) r.toJson).files, none⟩ := by
  have shown := Printing.fault_putAll (p := .blank) rfl (Report.shows_items lawful text)
  rw [scan, result_of_report h]
  simp only [shown, Option.isSome_none, Bool.false_eq_true, if_false, cut]
  exact ⟨_, _, rfl⟩

/-- With a report a scan ends by its verdict, unless the report is neither saved nor refused by the files. -/
theorem ending_of_report (named : Name.isText config.jsonOut.text = true) :
    (scan s o).ending = .exited r.verdict.exitCode ∨ (scan s o).IsUnsaved config.jsonOut := by
  cases written : (Json.save s.site.files none (some config.jsonOut) r.toJson).result with
  | ok path =>
    obtain ⟨screen, log, ends⟩ := scan_of_saved h lawful text named written
    rw [ends]
    exact .inl rfl
  | error f =>
    by_cases refused : ∃ e, f = .refused (.os e)
    · obtain ⟨e, rfl⟩ := refused
      obtain ⟨screen, log, ends⟩ := scan_of_refused h lawful text written
      rw [ends]
      exact .inl rfl
    · obtain ⟨screen, log, ends⟩ := scan_of_cut h lawful text written fun e same => refused ⟨e, same⟩
      rw [ends]
      exact .inr ⟨f, rfl, (Report.save_eq_error text written).resolve_left refused⟩

end Endings

/-- What a scan promises of its exit code and of the file that its report goes to, where every path that it has to tell
of is text. A report that has been written is kept by any file but a special one; a refusal that names the path was made
before anything was written. A report that is neither saved nor refused by the files has a path with a null character or
a count that cannot be printed. -/
structure Promise (s : Surroundings) (o : ScanOptions) (out : Outcome) : Prop where
  internalError : out.exitCode = 2 → ∃ f, attempt s o = .error f
  failed : ∀ f, attempt s o = .error f → Name.isText f.message = true → out.exitCode = 2
  untouched : ∀ f, attempt s o = .error f → out.files = s.site.files ∧ out.written = none
  saved : ∀ config r path, attempt s o = .ok (config, r) → r.IsText → Name.isText config.jsonOut.text = true →
    (Json.save s.site.files none (some config.jsonOut) r.toJson).result = .ok path →
      out.ending = .exited r.verdict.exitCode ∧ out.written = some path ∧
        r.meta? "exitCode".toList = some (.integer out.exitCode) ∧
        (¬ s.site.files.LeadsToSpecial config.jsonOut.text → out.files.Holds config.jsonOut.text r.toJson) ∧
        (s.site.files.LeadsToSpecial config.jsonOut.text → out.files = s.site.files)
  refused : ∀ config r e, attempt s o = .ok (config, r) → r.IsText →
    (Json.save s.site.files none (some config.jsonOut) r.toJson).result = .error (.refused (.os e)) →
      out.ending = .exited r.verdict.exitCode ∧ out.written = none ∧
        (e.path ≠ none → out.files = s.site.files)
  cut : ∀ config r f, attempt s o = .ok (config, r) → r.IsText →
    (Json.save s.site.files none (some config.jsonOut) r.toJson).result = .error f → (∀ e, f ≠ .refused (.os e)) →
      f = .refused .nullByte ∧ Name.null ∈ config.jsonOut.text ∨ f = .unencodable .longInteger

/-- A scan that is understood ends with 2 exactly if there is no report, and then leaves the files alone. A report
decides the exit code whether or not it can be saved; saved, it is read back with that code in it. -/
theorem run_promise {read : Variables → List Text → Option Request} {words : List Text} (lawful : s.screen.Lawful)
    (asked : read s.vars words = some (.scan o)) : Promise s o (run read s words) := by
  have answered : run read s words = scan s o := by
    rw [run, asked]
    rfl
  rw [answered]
  constructor
  case internalError =>
    intro two
    cases h : attempt s o with
    | error f => exact ⟨f, rfl⟩
    | ok found =>
      obtain ⟨config, r⟩ := found
      exact absurd two (exitCode_ne_two_of_report h)
  case failed =>
    intro f h text
    exact Outcome.exitCode_of_exited (ending_of_failed lawful h text)
  case untouched =>
    intro f h
    obtain ⟨log, ends⟩ := scan_of_failed h
    rw [ends]
    exact Printing.outcome_files ..
  case saved =>
    intro config r path h text named written
    obtain ⟨screen, log, ends⟩ := scan_of_saved h lawful text named written
    rw [ends]
    refine ⟨rfl, rfl, r.meta?_exitCode, Report.holds_of_save written, fun special => ?_⟩
    exact (Json.save_files rfl).trans (FileSystem.files_of_special special)
  case refused =>
    intro config r e h text refused
    obtain ⟨screen, log, ends⟩ := scan_of_refused h lawful text refused
    rw [ends]
    refine ⟨rfl, rfl, fun told => ?_⟩
    have target : Json.target? none (some config.jsonOut) = some config.jsonOut.text := rfl
    rcases (Json.save_eq_error target).1 refused with ⟨g, stored, same⟩ | ⟨-, g, -, same⟩
    · obtain rfl := Json.SaveFault.refused.inj same
      rcases FileSystem.writeFile_refused stored with shut | ⟨fault, interrupted⟩
      · simp only [Json.save_files target, shut]
      · cases interrupted
        exact absurd rfl told
    · cases same
  case cut =>
    intro config r f h text cut other
    rcases Report.save_eq_error text cut with ⟨e, rfl⟩ | unsaved
    · exact absurd rfl (other e)
    · exact unsaved

/-- The verdict of a scan and where its report is saved, if all names in it are text and it is. -/
def saved? (s : Surroundings) (o : ScanOptions) : Option (Verdict × Path) :=
  (attempt s o).toOption.bind fun found =>
    if found.2.IsText ∧ Name.isText found.1.jsonOut.text = true ∧
        (Json.save s.site.files none (some found.1.jsonOut) found.2.toJson).result.toOption = some found.1.jsonOut then
      some (found.2.verdict, found.1.jsonOut)
    else none

theorem exists_of_saved? {verdict : Verdict} {place : Path} (h : saved? s o = some (verdict, place)) :
    ∃ config r, attempt s o = .ok (config, r) ∧ r.verdict = verdict ∧ config.jsonOut = place ∧ r.IsText ∧
      Name.isText config.jsonOut.text = true ∧
      (Json.save s.site.files none (some config.jsonOut) r.toJson).result = .ok config.jsonOut := by
  obtain ⟨⟨config, r⟩, attempted, facts⟩ := Option.bind_eq_some_iff.1 h
  split at facts
  · rename_i sound
    obtain ⟨text, named, stored⟩ := sound
    obtain ⟨told, there⟩ := Prod.mk.inj (Option.some.inj facts)
    exact ⟨config, r, Audit.eq_ok_of_toOption attempted, told, there, text, named, Audit.eq_ok_of_toOption stored⟩
  · cases facts

/-- A list with a lockfile beside it, and other entries. -/
def listedFiles (list lockfile : Text) (others : List (Entry Node)) : FileSystem :=
  ⟨[], .directory true (⟨"list".toList, false, false, .file (Utf8.encode list)⟩ ::
    ⟨FileKind.lockfile.fileName, false, false, .file (Utf8.encode lockfile)⟩ :: others), [], .none⟩

def lodashFiles (others : List (Entry Node)) : FileSystem :=
  listedFiles "lodash: 1".toList "lodash@^1:\n  version \"1\"\n".toList others

def surroundingsOf (files : FileSystem) : Surroundings :=
  ⟨⟨files, [], ⟨2025, 1, 2, 3, 4, 5, 0⟩, 1000⟩, [], .ofWidth 80, .whole 0⟩

theorem run_promise_lodash :
    let s := surroundingsOf (lodashFiles [])
    let words := ["scan".toList, "--compromised-file".toList, "list".toList]
    ∃ o config r path, Request.ofWords? s.vars words = some (.scan o) ∧ attempt s o = .ok (config, r) ∧ r.IsText ∧
      Name.isText config.jsonOut.text = true ∧ ¬ s.site.files.LeadsToSpecial config.jsonOut.text ∧
      (Json.save s.site.files none (some config.jsonOut) r.toJson).result = .ok path ∧
      (run Request.ofWords? s words).exitCode = 1 ∧ s.screen.Lawful ∧ Promise s o (run Request.ofWords? s words) := by
  intro s words
  let o : ScanOptions := ⟨none, none, some (Path.ofText "list".toList), none, false, false⟩
  have asked : Request.ofWords? s.vars words = some (.scan o) := by decide +kernel
  have saved : saved? s o = some (.findings, ⟨.root, ["scan-results.json".toList]⟩) := by decide +kernel
  obtain ⟨config, r, h, fails, place, text, named, written⟩ := exists_of_saved? saved
  have kept : ¬ s.site.files.LeadsToSpecial config.jsonOut.text := by
    rintro ⟨content, special⟩
    rw [place] at special
    have missing : s.site.files.stat (Path.text ⟨.root, ["scan-results.json".toList]⟩) = .error .notFound := by rfl
    rw [missing] at special
    cases special
  have lawful : s.screen.Lawful := Console.Screen.lawful_ofWidth 80
  have promise := run_promise lawful asked
  obtain ⟨ending, -⟩ := promise.saved config r config.jsonOut h text named written
  refine ⟨o, config, r, config.jsonOut, asked, h, text, named, kept, written, ?_, lawful, promise⟩
  rw [Outcome.exitCode_of_exited ending, fails]
  rfl

/-- The device that keeps nothing, in a directory of its own. -/
def devices : Entry Node :=
  ⟨"dev".toList, false, false, .directory true [⟨"null".toList, false, false, .nullDevice⟩]⟩

/-- A report that is written to a device is not to be had from there. -/
theorem run_keeps_nothing :
    let s := surroundingsOf (lodashFiles [devices])
    let device : Path := Path.ofText "/dev/null".toList
    let out := run Request.ofWords? s
      ["scan".toList, "--compromised-file".toList, "list".toList, "--json-out".toList, "/dev/null".toList]
    out.exitCode = 1 ∧ out.written = some device ∧ ∀ v, ¬ out.files.Holds device.text v := by
  intro s device out
  let o : ScanOptions := ⟨none, some device, some (Path.ofText "list".toList), none, false, false⟩
  have asked : Request.ofWords? s.vars ["scan".toList, "--compromised-file".toList, "list".toList,
      "--json-out".toList, "/dev/null".toList] = some (.scan o) := by decide +kernel
  have saved : saved? s o = some (.findings, device) := by decide +kernel
  obtain ⟨config, r, h, fails, place, text, named, written⟩ := exists_of_saved? saved
  have target : Json.target? none (some config.jsonOut) = some config.jsonOut.text := rfl
  have there : s.site.files.stat device.text = .ok .nullDevice := by rfl
  have special : s.site.files.LeadsToSpecial config.jsonOut.text := by
    rw [place]
    exact ⟨_, there⟩
  obtain ⟨screen, log, ends⟩ := scan_of_saved h (Console.Screen.lawful_ofWidth 80) text named written
  have answered : out = scan s o := by
    rw [show out = run .. from rfl, run, asked]
    rfl
  rw [Json.save_files target, FileSystem.files_of_special special, fails, place] at ends
  rw [answered, ends]
  refine ⟨rfl, rfl, fun v held => ?_⟩
  obtain ⟨n, bytes, text, stands, content, decoded, whole⟩ := held
  obtain rfl := Except.ok.inj (there.symm.trans stands)
  obtain rfl := Except.ok.inj content
  obtain rfl := Except.ok.inj decoded
  cases whole Report.depth le_rfl

end Command

end DependencyAudit
