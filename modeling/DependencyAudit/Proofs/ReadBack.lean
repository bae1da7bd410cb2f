import DependencyAudit.Proofs.Breaks
import DependencyAudit.Proofs.SavedReport
import DependencyAudit.Proofs.Verdict

namespace DependencyAudit

namespace Json

/-- What the bytes of a file spell when it is opened as a manifest is, read to a depth of nesting. -/
def ofBytes? (depth : Nat) (bytes : List UInt8) : Option Json := (FileSystem.textOf bytes).toOption.bind (read? depth)

/-- What is printed has no carriage return in it, so that opening the file as text changes nothing. -/
theorem ofBytes?_of_write {depth : Nat} {v : Json} (readable : Readable depth v) (whole : (write v).fault = none) :
    ofBytes? depth (Utf8.encode (write v).text) = some v := by
  have feeds : '\r' ∉ (write v).text :=
    return_not_mem_write (readable.throughout.imp (fun _ _ => trivial) fun _ _ => trivial)
  have kept := Text.unifyBreaks_append feeds []
  rw [List.append_nil, Text.unifyBreaks, List.append_nil] at kept
  rw [ofBytes?, FileSystem.textOf_encode, kept]
  exact read?_of_write readable whole

end Json

theorem Finding.member?_section (f : Finding) (root : Option Path) :
    (f.toJson root).member? "section".toList = f.group.map Json.ofText := by
  rw [toJson]
  cases f.group with
  | none => rfl
  | some group => rfl

namespace Report

/-- A value that tells what a report does: it is the report's own, with a section at just the findings that have one and
with a reason just if nothing was scanned. -/
structure IsTold (r : Report) (v : Json) : Prop where
  whole : v = r.toJson
  sections : ∃ items, v.member? "vulnerabilities".toList = some (.array items) ∧
    List.Forall₂ (fun f item => Json.member? "section".toList item = f.group.map Json.ofText) r.findings items
  reason : (v.member? "meta".toList).bind (Json.member? "reason".toList) =
    if r.scanned = [] then some (.ofText "No package or lock files found; scan inconclusive.".toList) else none

/-- How saving a report ends, with the path for it if there is one: without a path nowhere; with one that is refused,
before or while it is written; with a path in the report that is no text, or a count that has too many digits; or with
bytes written that spell the report, to what keeps nothing of them or to a file that holds them. -/
inductive SaveEnds (r : Report) (fs : FileSystem) : Option Name → Json.Saved → Prop
  | nowhere : SaveEnds r fs none ⟨fs, [], .error .noPath, []⟩
  | refused {path : Name} {f : OpenFault} {saved : Json.Saved}
      (refused : ∀ bytes, fs.writeFile path bytes = ⟨fs, [], some f⟩) (untouched : saved.files = fs) (result : saved.result = .error (.refused f)) : SaveEnds r fs (some path) saved
  | interrupted {path : Name} {e : OsFault} {saved : Json.Saved}
      (interrupted : ∃ bytes, (fs.writeFile path bytes).fault = some (.os ⟨e, none⟩))
      (result : saved.result = .error (.refused (.os ⟨e, none⟩))) : SaveEnds r fs (some path) saved
  | unencodable {path : Name} {run : LoneRun} {saved : Json.Saved} (other : ¬ r.IsText)
      (result : saved.result = .error (.unencodable (.lone run))) : SaveEnds r fs (some path) saved
  | tooLong {path : Name} {n : Nat} {saved : Json.Saved} (count : n ∈ r.counts) (long : Json.isLong n = true)
      (result : saved.result = .error (.unencodable .longInteger)) : SaveEnds r fs (some path) saved
  | saved {path : Name} {saved : Json.Saved} {v : Json} (text : r.IsText) (short : ∀ n ∈ r.counts, Json.isLong n = false)
      (result : saved.result = .ok (Path.ofText path))
      (spelled : ∀ depth, Report.depth ≤ depth → Json.ofBytes? depth saved.sent = some v) (told : r.IsTold v)
      (there : ¬ fs.LeadsToSpecial path → saved.files.stat path = .ok (.file saved.sent))
      (swallowed : fs.LeadsToSpecial path → saved.files = fs) : SaveEnds r fs (some path) saved

/-- Saving the report somewhere leaves a file with these bytes. -/
def IsSavedAs (r : Report) (bytes : List UInt8) : Prop :=
  ∃ fs asked default path, Json.target? asked default = some path ∧
    (Json.save fs asked default r.toJson).result = .ok (Path.ofText path) ∧
    (Json.save fs asked default r.toJson).files.stat path = .ok (.file bytes)

theorem isTold_toJson (r : Report) : r.IsTold r.toJson where
  whole := rfl
  sections := by
    refine ⟨_, rfl, ?_⟩
    rw [List.forall₂_map_right_iff, List.forall₂_same]
    exact fun f _ => f.member?_section _
  reason := by
    have told := r.meta?_reason
    rw [meta?] at told
    rw [told, reason?, isInconclusive]
    cases r.scanned <;> rfl

theorem ofBytes?_of_write {r : Report} (whole : (Json.write r.toJson).fault = none) (depth : Nat)
    (enough : Report.depth ≤ depth) : Json.ofBytes? depth (Utf8.encode (Json.write r.toJson).text) = some r.toJson :=
  Json.ofBytes?_of_write (readable_toJson (write_fault_eq_none_iff.1 whole).1 enough) whole

theorem IsSavedAs.ofBytes? {r : Report} {bytes : List UInt8} (h : r.IsSavedAs bytes) {depth : Nat}
    (enough : Report.depth ≤ depth) : Json.ofBytes? depth bytes = some r.toJson := by
  obtain ⟨fs, asked, default, path, target, stored, there⟩ := h
  obtain ⟨taken, whole, -⟩ := (Json.save_eq_ok target).1 stored
  rw [Json.save_files target] at there
  -- What keeps nothing would still stand at the path.
  have kept : ¬ fs.LeadsToSpecial path := by
    rintro ⟨content, special⟩
    rw [FileSystem.files_of_special ⟨content, special⟩, special] at there
    cases there
  rw [FileSystem.stat_of_writeFile taken kept] at there
  obtain rfl := Node.file.inj (Except.ok.inj there)
  exact ofBytes?_of_write whole depth enough

theorem IsSavedAs.of_toJson_eq {r s : Report} {bytes : List UInt8} (h : r.IsSavedAs bytes) (same : s.toJson = r.toJson) :
    s.IsSavedAs bytes := by
  rw [IsSavedAs, same]
  exact h

theorem exists_long_count {r : Report} (faulty : (Json.write r.toJson).fault = some .longInteger) :
    ∃ n ∈ r.counts, Json.isLong n = true := by
  by_contra fitting
  have short : ∀ n ∈ r.counts, Json.isLong n = false := by simpa using fitting
  obtain ⟨run, same⟩ := Json.exists_lone_of_write
    (throughout_of_counts r.isLong_exitCode short) faulty
  cases same

theorem saveEnds (r : Report) (fs : FileSystem) (asked : Option Name) (default : Option Path) :
    r.SaveEnds fs (Json.target? asked default) (Json.save fs asked default r.toJson) := by
  cases target : Json.target? asked default with
  | none =>
    rw [Json.save_of_no_target target]
    exact .nowhere
  | some path =>
    have files : (Json.save fs asked default r.toJson).files =
        (fs.writeFile path (Utf8.encode (Json.write r.toJson).text)).files := Json.save_files target
    cases result : (Json.save fs asked default r.toJson).result with
    | ok p =>
      obtain ⟨taken, whole, rfl⟩ := (Json.save_eq_ok target).1 result
      obtain ⟨text, short⟩ := write_fault_eq_none_iff.1 whole
      have sent : (Json.save fs asked default r.toJson).sent = Utf8.encode (Json.write r.toJson).text :=
        (Json.save_sent target).trans (FileSystem.sent_of_writeFile taken)
      refine .saved text short result ?_ r.isTold_toJson ?_ ?_
      · rw [sent]
        exact ofBytes?_of_write whole
      · rw [files, sent]
        exact FileSystem.stat_of_writeFile taken
      · rw [files]
        exact FileSystem.files_of_special
    | error fault =>
      rcases (Json.save_eq_error target).1 result with ⟨f, refused, rfl⟩ | ⟨-, f, unwritten, rfl⟩
      · rcases FileSystem.writeFile_refused refused with shut | ⟨e, rfl⟩
        · rw [shut] at files
          exact .refused shut files result
        · exact .interrupted ⟨_, refused⟩ result
      · cases f with
        | lone run =>
          refine .unencodable (fun text => ?_) result
          cases Json.eq_longInteger_of_write (isText_iff.1 text) unwritten
        | longInteger =>
          obtain ⟨n, count, long⟩ := exists_long_count unwritten
          exact .tooLong count long result

/-- A saved report reads back as what it says, and no report that says anything else is saved as the same file. -/
theorem saved_reads_back (r : Report) (fs : FileSystem) (asked : Option Name) (default : Option Path) :
    r.SaveEnds fs (Json.target? asked default) (Json.save fs asked default r.toJson) ∧
      ∀ (bytes : List UInt8) (s : Report), r.IsSavedAs bytes → (s.IsSavedAs bytes ↔ s.toJson = r.toJson) := by
  refine ⟨r.saveEnds fs asked default, ?_⟩
  intro bytes s there
  constructor
  · intro same
    have spelled := same.ofBytes? (Nat.le_refl Report.depth)
    rw [there.ofBytes? (Nat.le_refl Report.depth)] at spelled
    exact (Option.some.inj spelled).symm
  · exact there.of_toJson_eq

/-- Quotation marks, a backslash, control characters, a line separator and a character beyond the first plane. -/
def awkwardName : Text := "\"q\" \\ \x07\t\r\n\x7f \u2028 😀".toList

/-- A report of two findings with awkward names, of which one has a section, even an empty one. -/
def awkward : Report where
  root := ⟨.root, [awkwardName]⟩
  findings := [
    ⟨⟨.root, [awkwardName, "package.json".toList]⟩, awkwardName, awkwardName, "package.json".toList, some [],
      by decide, by decide⟩,
    ⟨⟨.root, ["yarn.lock".toList]⟩, awkwardName, ['1'], "yarn.lock".toList, none, by decide, by decide⟩]
  scanned := [⟨⟨.root, [awkwardName, "package.json".toList]⟩, .manifest⟩]
  packageCount := 1
  versionCount := 2
  generatedAt := awkwardName
  scanner := scannerName
  version := scannerVersion

theorem saved_reads_back_awkward :
    ∃ bytes, awkward.IsSavedAs bytes ∧ Json.ofBytes? 1000 bytes = some awkward.toJson ∧
      ¬ { awkward with scanned := [] }.IsSavedAs bytes := by
  let files : FileSystem := ⟨[], .emptyDirectory, [], .none⟩
  let path : Name := "/report.json".toList
  have missing : files.stat path = .error .notFound := by rfl
  have stored : (Json.save files (some path) none awkward.toJson).result.toOption.isSome = true := by decide +kernel
  obtain ⟨ends, alone⟩ := saved_reads_back awkward files (some path) none
  have target : Json.target? (some path) none = some path := rfl
  rw [target] at ends
  cases ends with
  | refused _ _ result | interrupted _ result | unencodable _ result | tooLong _ _ result =>
    rw [result] at stored
    cases stored
  | saved text short result spelled told there =>
    have kept : ¬ files.LeadsToSpecial path := by
      rintro ⟨content, special⟩
      rw [missing] at special
      cases special
    generalize sent : (Json.save files (some path) none awkward.toJson).sent = bytes at spelled there
    have saved : awkward.IsSavedAs bytes := ⟨files, some path, none, path, target, result, there kept⟩
    rw [told.whole] at spelled
    refine ⟨bytes, saved, spelled 1000 (by decide), ?_⟩
    rw [alone bytes _ saved]
    intro same
    have lost := ({ awkward with scanned := [] } : Report).isTold_toJson.reason
    rw [same, awkward.isTold_toJson.reason, if_neg (by decide), if_pos rfl] at lost
    cases lost

end Report

end DependencyAudit
