import DependencyAudit.Json.Saving
import DependencyAudit.Proofs.Json.RoundTrip
import DependencyAudit.Proofs.Text
import DependencyAudit.Proofs.Utf8
import DependencyAudit.Proofs.Writing
import DependencyAudit.Report

namespace DependencyAudit

namespace Path

variable {p : Path}

theorem isText_joined {ns : List Name} : Name.isText (joined ns) = true ↔ ∀ n ∈ ns, Name.isText n = true := by
  simp only [Name.isText_iff]
  constructor
  · intro whole n hn p hp
    exact whole p (mem_intercalate_of_mem hn hp)
  · intro each p hp
    rcases mem_intercalate hp with ⟨n, hn, hp⟩ | slash
    · exact each n hn p hp
    · obtain rfl := List.mem_singleton.1 slash
      rfl

/-- A path is text if its names are. -/
theorem isText_text : Name.isText p.text = true ↔ ∀ n ∈ p.names, Name.isText n = true := by
  rw [text]
  split
  · rename_i empty
    rw [empty.2]
    exact iff_of_true rfl fun n hn => absurd hn List.not_mem_nil
  · have anchor : Name.isText p.anchor.text = true := by cases p.anchor <;> rfl
    rw [Name.isText_append, anchor, Bool.true_and, isText_joined]

theorem isText_relativeText (h : Name.isText p.text = true) (directory : Option Path) :
    Name.isText (p.relativeText directory) = true := by
  cases directory with
  | none => exact h
  | some d =>
    rw [relativeText]
    cases led : p.relativeTo? d with
    | none => exact h
    | some q =>
      rw [relativeTo?] at led
      split at led
      · obtain ⟨rest, split, rfl⟩ := Option.map_eq_some_iff.1 led
        have whole : d.names ++ rest = p.names := List.isPrefixOf?_eq_some_iff_append_eq.1 split
        rw [isText_text, ← whole] at h
        rw [Option.getD_some, isText_text]
        exact fun n hn => h n (List.mem_append_right _ hn)
      · cases led

theorem isText_name (h : Name.isText p.text = true) : Name.isText p.name = true := by
  rw [name]
  cases last : p.names.getLast? with
  | none => rfl
  | some n => exact isText_text.1 h n (List.mem_of_getLast? last)

end Path

namespace Json

section Saving

variable {fs : FileSystem} {asked : Option Name} {default : Option Path} {path : Name} {v : Json}

theorem save_of_no_target (target : target? asked default = none) :
    save fs asked default v = ⟨fs, [], .error .noPath, []⟩ := by
  rw [save, target]

section Target

variable (target : target? asked default = some path)

include target

/-- Saving leaves the files as writing does what of the value is printed. -/
theorem save_files : (save fs asked default v).files = (fs.writeFile path (Utf8.encode (write v).text)).files := by
  rw [save, target]
  simp only
  split <;> rfl

theorem save_sent : (save fs asked default v).sent = (fs.writeFile path (Utf8.encode (write v).text)).sent := by
  rw [save, target]
  simp only
  split <;> rfl

theorem save_eq_ok {p : Path} : (save fs asked default v).result = .ok p ↔
    (fs.writeFile path (Utf8.encode (write v).text)).fault = none ∧ (write v).fault = none ∧ p = Path.ofText path := by
  rw [save, target]
  simp only
  split
  · rename_i f stored
    simp [stored]
  · rename_i f stored printed
    simp [printed]
  · rename_i stored printed
    simp [stored, printed, eq_comm]

/-- A value is not saved if its path does not take it, or else if it has no printed form. -/
theorem save_eq_error {f : SaveFault} : (save fs asked default v).result = .error f ↔
    (∃ g, (fs.writeFile path (Utf8.encode (write v).text)).fault = some g ∧ f = .refused g) ∨
      (fs.writeFile path (Utf8.encode (write v).text)).fault = none ∧
        ∃ g, (write v).fault = some g ∧ f = .unencodable g := by
  rw [save, target]
  simp only
  split
  · rename_i g stored
    simp [stored, eq_comm]
  · rename_i g stored printed
    simp [stored, printed, eq_comm]
  · rename_i stored printed
    simp [stored, printed]

end Target

end Saving

@[simp] theorem member_fst (name : String) (v : Json) : (member name v).1 = CodePoint.ofText name.toList := rfl

@[simp] theorem member_snd (name : String) (v : Json) : (member name v).2 = v := rfl

end Json

/-- A report is nested no deeper. -/
def Report.depth : Nat := 3

/-- What is read at a path to the end decodes to a value, by a reader for which no report is nested too deep. -/
def FileSystem.Holds (fs : FileSystem) (path : Name) (v : Json) : Prop :=
  ∃ n bytes text, fs.stat path = .ok n ∧ n.content = .ok bytes ∧ Utf8.decode bytes = .ok text ∧
    ∀ depth, Report.depth ≤ depth → Json.read? depth text = some v

/-- The paths in a report are text. -/
structure Report.IsText (r : Report) : Prop where
  root : Name.isText r.root.text = true
  findings : ∀ f ∈ r.findings, Name.isText f.file.text = true
  scanned : ∀ c ∈ r.scanned, Name.isText c.path.text = true

section Throughout

variable {string : List CodePoint → Prop} {integer : Int → Prop} (texts : ∀ t, string (CodePoint.ofText t))

include texts

theorem Finding.throughout_toJson (f : Finding) (root : Option Path) :
    Json.Throughout string integer (f.toJson root) ↔ string f.file.text ∧ string (f.file.relativeText root) := by
  rw [toJson]
  cases f.group <;> simp [texts, Json.ofText]

theorem Candidate.throughout_toJson (c : Candidate) (root : Path) : Json.Throughout string integer (c.toJson root) ↔
    string c.path.text ∧ string (c.path.relativeText (some root)) ∧ string c.path.name := by
  simp [toJson, texts]

namespace Report

/-- The numbers in a report that can have any number of digits. -/
def counts (r : Report) : List Nat := [r.scanned.length, r.findings.length, r.packageCount, r.versionCount]

theorem throughout_metaJson (r : Report) : Json.Throughout string integer r.metaJson ↔
    string r.root.text ∧ (∀ n ∈ r.counts, integer n) ∧ integer r.verdict.exitCode := by
  rw [metaJson]
  cases r.reason? <;> simp [texts, Json.ofText, counts, and_assoc]

/-- The strings in a report besides texts are spelled paths and names of files; its integers are counts, and the exit
code. -/
theorem throughout_toJson (r : Report) : Json.Throughout string integer r.toJson ↔
    (string r.root.text ∧ (∀ n ∈ r.counts, integer n) ∧ integer r.verdict.exitCode) ∧
    (∀ f ∈ r.findings, string f.file.text ∧ string (f.file.relativeText (some r.root))) ∧
    ∀ c ∈ r.scanned, string c.path.text ∧ string (c.path.relativeText (some r.root)) ∧ string c.path.name := by
  rw [toJson]
  simp [texts, throughout_metaJson texts, Finding.throughout_toJson texts, Candidate.throughout_toJson texts]

end Report

end Throughout

namespace Report

variable {r : Report}

theorem isLong_exitCode (r : Report) : Json.isLong r.verdict.exitCode = false := by
  cases r.verdict <;> decide

theorem isText_iff : r.IsText ↔ Json.Throughout (fun s => Name.isText s = true) (fun _ => True) r.toJson := by
  rw [throughout_toJson Name.isText_ofText]
  constructor
  · intro h
    refine ⟨⟨h.root, fun _ _ => trivial, trivial⟩, fun f hf => ?_, fun c hc => ?_⟩
    · exact ⟨h.findings f hf, Path.isText_relativeText (h.findings f hf) _⟩
    · exact ⟨h.scanned c hc, Path.isText_relativeText (h.scanned c hc) _, Path.isText_name (h.scanned c hc)⟩
  · rintro ⟨⟨root, -⟩, findings, scanned⟩
    exact ⟨root, fun f hf => (findings f hf).1, fun c hc => (scanned c hc).1⟩

theorem throughout_of_counts {integer : Int → Prop} (exitCode : integer r.verdict.exitCode)
    (counts : ∀ n ∈ r.counts, integer n) : Json.Throughout (fun _ => True) integer r.toJson := by
  rw [throughout_toJson fun _ => trivial]
  simpa [exitCode] using counts

/-- A report has a printed form if its paths are text and no count in it is too long. -/
theorem write_fault_eq_none_iff :
    (Json.write r.toJson).fault = none ↔ r.IsText ∧ ∀ n ∈ r.counts, Json.isLong n = false := by
  rw [Json.write_fault_eq_none_iff (throughout_of_counts trivial fun _ _ => trivial)]
  constructor
  · intro sound
    refine ⟨isText_iff.2 (sound.imp (fun _ text => text) fun _ _ => trivial), ?_⟩
    exact ((throughout_toJson Name.isText_ofText r).1 sound).1.2.1
  · rintro ⟨text, short⟩
    have whole := (throughout_toJson Name.isText_ofText r).1 (isText_iff.1 text)
    rw [throughout_toJson Name.isText_ofText]
    exact ⟨⟨whole.1.1, short, r.isLong_exitCode⟩, whole.2⟩

variable {depth : Nat}

theorem readable_finding {f : Finding} (h : Name.isText f.file.text = true) (root : Option Path) :
    Json.Readable (depth + 1) (f.toJson root) := by
  have led := Path.isText_relativeText h root
  rw [Finding.toJson]
  cases f.group with
  | none => exact .object (by simp) (by simp) (by simp [Json.ofText, Json.readable_string, h, led])
  | some group => exact .object (by simp) (by simp) (by simp [Json.ofText, Json.readable_string, h, led])

theorem readable_candidate {c : Candidate} (h : Name.isText c.path.text = true) (root : Path) :
    Json.Readable (depth + 1) (c.toJson root) := by
  have led := Path.isText_relativeText h (some root)
  have name := Path.isText_name h
  exact .object (by simp) (by simp) (by simp [Json.readable_string, h, led, name])

theorem readable_metaJson (h : Name.isText r.root.text = true) : Json.Readable (depth + 1) r.metaJson := by
  rw [metaJson]
  cases r.reason? with
  | none =>
    exact .object (by simp) (by simp)
      (by simp [Json.ofText, Json.readable_string, h, Json.Readable.integer, Json.Readable.bool])
  | some text =>
    exact .object (by simp) (by simp)
      (by simp [Json.ofText, Json.readable_string, h, Json.Readable.integer, Json.Readable.bool])

theorem readable_toJson (h : r.IsText) (enough : Report.depth ≤ depth) : Json.Readable depth r.toJson := by
  obtain ⟨more, rfl⟩ : ∃ more, depth = more + 3 := Nat.exists_eq_add_of_le' enough
  refine .object (by simp) (by simp) ?_
  simp only [List.forall_mem_cons, Json.member_snd]
  refine ⟨readable_metaJson h.root, .array ?_, .array ?_, fun m hm => absurd hm List.not_mem_nil⟩
  · intro v hv
    obtain ⟨f, hf, rfl⟩ := List.mem_map.1 hv
    exact readable_finding (h.findings f hf) (some r.root)
  · intro v hv
    obtain ⟨c, hc, rfl⟩ := List.mem_map.1 hv
    exact readable_candidate (h.scanned c hc) r.root

/-- A report comes back from its printed form, if it has one. -/
theorem read?_of_write (whole : (Json.write r.toJson).fault = none) (enough : Report.depth ≤ depth) :
    Json.read? depth (Json.write r.toJson).text = some r.toJson :=
  Json.read?_of_write (readable_toJson (write_fault_eq_none_iff.1 whole).1 enough) whole

variable {fs : FileSystem} {p : Path}

/-- A saved report is what the file at its path decodes to, unless the path leads to what keeps nothing. -/
theorem holds_of_save {path : Path} (saved : (Json.save fs none (some p) r.toJson).result = .ok path)
    (kept : ¬ fs.LeadsToSpecial p.text) : (Json.save fs none (some p) r.toJson).files.Holds p.text r.toJson := by
  obtain ⟨stored, whole, -⟩ := (Json.save_eq_ok rfl).1 saved
  have target : Json.target? none (some p) = some p.text := rfl
  have there := FileSystem.stat_of_writeFile stored kept
  rw [← Json.save_files target] at there
  exact ⟨_, _, _, there, rfl, Utf8.decode_encode _, fun _ => read?_of_write whole⟩

/-- Besides the files only a null character in the path or a count of too many digits keeps a report whose paths are
text from being saved. -/
theorem save_eq_error {f : Json.SaveFault} (text : r.IsText)
    (h : (Json.save fs none (some p) r.toJson).result = .error f) :
    (∃ e, f = .refused (.os e)) ∨ (f = .refused .nullByte ∧ Name.null ∈ p.text) ∨ f = .unencodable .longInteger := by
  rcases (Json.save_eq_error rfl).1 h with ⟨g, refused, rfl⟩ | ⟨-, g, unwritten, rfl⟩
  · cases g with
    | nullByte => exact .inr (.inl ⟨rfl, FileSystem.writeFile_eq_nullByte.1 refused⟩)
    | os e => exact .inl ⟨e, rfl⟩
  · obtain rfl := Json.eq_longInteger_of_write (isText_iff.1 text) unwritten
    exact .inr (.inr rfl)

end Report

end DependencyAudit
