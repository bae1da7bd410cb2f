import DependencyAudit.ParserTable
import DependencyAudit.Proofs.Lockfile.Rules
import DependencyAudit.Proofs.Mention.Report

namespace DependencyAudit

namespace Lockfile

/-- The versions that a line states for the packages carried. -/
def Line.mentions (carried : List Text) : Line → List Mention
  | .version v => carried.map fun n => ⟨n, v, none⟩
  | _ => []

/-- The versions that lines state, read on from the packages carried. No list plays a part in this. -/
def mentions (carried : List Text) : List Text → List Mention
  | [] => []
  | l :: ls =>
    let line := Line.read carried l
    line.mentions carried ++ mentions (line.carry carried) ls

theorem Line.version_ne_nil {carried : List Text} {line v : Text} (h : Line.read carried line = .version v) :
    v ≠ [] := by
  rw [Line.read] at h
  split at h
  · cases h
  · split at h
    · cases h
    · split at h
      · rename_i stated
        obtain rfl := Line.version.inj h
        split at stated
        · cases stated
        · exact (version?_eq_some.1 stated).1
      · split at h <;> cases h

theorem version_ne_nil_of_mem_mentions {carried ls : List Text} {m : Mention} (h : m ∈ mentions carried ls) :
    m.version ≠ [] := by
  induction ls generalizing carried with
  | nil => exact absurd h List.not_mem_nil
  | cons l ls ih =>
    rcases List.mem_append.1 h with h | h
    · cases hl : Line.read carried l with
      | version v =>
        rw [hl] at h
        obtain ⟨n, _, rfl⟩ := List.mem_map.1 h
        exact Line.version_ne_nil hl
      | header | bareEntry | blank | other =>
        rw [hl] at h
        exact absurd h List.not_mem_nil
    · exact ih h

theorem Line.findings_eq_report (w : Watchlist) (file : Path) (source : Text) (carried : List Text) (line : Line) :
    line.findings w file source carried = Mention.report w file source (line.mentions carried) := by
  cases line with
  | version v =>
    rw [Line.findings, Mention.report, Line.mentions, List.filter_map, List.mapM_map]
    rfl
  | header | bareEntry | blank | other => rfl

/-- A run finds the listed ones of the versions that its lines state. -/
theorem run_eq_report (w : Watchlist) (file : Path) (source : Text) (carried ls : List Text) :
    run w file source carried ls = Mention.report w file source (mentions carried ls) := by
  induction ls generalizing carried with
  | nil => rfl
  | cons l ls ih =>
    rw [run, mentions, Mention.report_append, ← Line.findings_eq_report, ← ih]
    cases (Line.read carried l).findings w file source carried with
    | error e => rfl
    | ok fs => rfl

end Lockfile

namespace VersionSpec

theorem aliasHere?_ne_nil {t v : Text} (h : aliasHere? t = some v) : v ≠ [] := by
  rw [aliasHere?] at h
  split at h
  · cases h
  · split at h
    · split at h
      · cases h
      · rename_i present
        obtain rfl := Option.some.inj h
        exact present
    · cases h

theorem aliased?_ne_nil {t v : Text} (h : aliased? t = some v) : v ≠ [] := by
  induction t with
  | nil => cases h
  | cons c t ih =>
    rw [aliased?] at h
    split at h
    · rename_i here
      obtain rfl := Option.some.inj h
      exact aliasHere?_ne_nil here
    · exact ih h

theorem ne_nil_of_mem_candidates {spec v : Text} (h : v ∈ candidates spec) : v ≠ [] := by
  rw [candidates] at h
  split at h
  · rename_i found
    obtain rfl := List.mem_singleton.1 h
    exact aliased?_ne_nil found
  · exact of_decide_eq_true (List.mem_filter.1 h).2

end VersionSpec

namespace Manifest

/-- The versions that a manifest's text declares, read to a depth of nesting. -/
def mentions (depth : Nat) (content : Text) : List Mention :=
  match Json.read? depth content with
  | none => []
  | some manifest => (declared manifest).map fun d => ⟨d.name, d.version, some d.group⟩

theorem ne_nil_of_mem_candidatesOf {s : List CodePoint} {v : Text} (h : v ∈ candidatesOf s) : v ≠ [] := by
  rw [candidatesOf] at h
  split at h
  · exact VersionSpec.ne_nil_of_mem_candidates h
  · exact VersionSpec.ne_nil_of_mem_candidates (List.mem_of_mem_filter h)

theorem version_ne_nil_of_mem_declared {manifest : Json} {d : Declaration} (h : d ∈ declared manifest) :
    d.version ≠ [] := by
  obtain ⟨group, _, h⟩ := List.mem_flatMap.1 h
  rw [declaredIn] at h
  split at h
  · obtain ⟨m, _, h⟩ := List.mem_flatMap.1 h
    rw [declare] at h
    split at h
    · obtain ⟨v, hv, rfl⟩ := List.mem_map.1 h
      exact ne_nil_of_mem_candidatesOf hv
    · exact absurd h List.not_mem_nil
  · exact absurd h List.not_mem_nil

theorem version_ne_nil_of_mem_mentions {depth : Nat} {content : Text} {m : Mention} (h : m ∈ mentions depth content) :
    m.version ≠ [] := by
  rw [mentions] at h
  split at h
  · exact absurd h List.not_mem_nil
  · obtain ⟨d, hd, rfl⟩ := List.mem_map.1 h
    exact version_ne_nil_of_mem_declared hd

/-- A manifest yields the listed ones of the versions that it declares. -/
theorem findings_eq_report (depth : Nat) (w : Watchlist) (file : Path) (source content : Text) :
    findings depth w file source content = Mention.report w file source (mentions depth content) := by
  rw [findings, mentions]
  cases Json.read? depth content with
  | none => rfl
  | some manifest =>
    simp only [Mention.report]
    rw [List.filter_map, List.mapM_map]
    rfl

end Manifest

/-- The versions that the text of a file of a kind states. -/
def FileKind.mentions (depth : Nat) (k : FileKind) (content : Text) : List Mention :=
  match k with
  | .manifest => Manifest.mentions depth content
  | .lockfile => Lockfile.mentions [] (Text.rows content)

namespace Parser

theorem version_ne_nil_of_mem_mentions {depth : Nat} {k : FileKind} {content : Text} {m : Mention}
    (h : m ∈ k.mentions depth content) : m.version ≠ [] := by
  cases k with
  | manifest => exact Manifest.version_ne_nil_of_mem_mentions h
  | lockfile => exact Lockfile.version_ne_nil_of_mem_mentions h

theorem manifest_parse (depth : Nat) (w : Watchlist) (file : Path) (content : Text) :
    (manifest depth).parse w file content =
      Mention.report w file FileKind.manifest.fileName (Manifest.mentions depth content) :=
  Manifest.findings_eq_report ..

theorem lockfile_parse (w : Watchlist) (file : Path) (content : Text) :
    lockfile.parse w file content =
      Mention.report w file FileKind.lockfile.fileName (Lockfile.mentions [] (Text.rows content)) :=
  Lockfile.run_eq_report ..

/-- What a parser does with a list: it keeps the listed ones of the versions that the text states. -/
theorem parse_eq_report (depth : Nat) (k : FileKind) (w : Watchlist) (file : Path) (content : Text) :
    (ofKind depth k).parse w file content = Mention.report w file k.fileName (k.mentions depth content) := by
  cases k with
  | manifest => exact manifest_parse ..
  | lockfile => exact lockfile_parse ..

end Parser

end DependencyAudit
