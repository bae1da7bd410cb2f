import DependencyAudit.Proofs.Declaration
import DependencyAudit.Proofs.LongerList

namespace DependencyAudit

/-- What the findings in files of a kind say of the part of a file that tells: a manifest has groups, a lockfile has
none. -/
def FileKind.IsGroup : FileKind → Option Text → Prop
  | .manifest, group => ∃ g ∈ Manifest.groups, group = some g
  | .lockfile, group => group = none

namespace Lockfile

theorem group_of_mem_mentions {carried ls : List Text} {m : Mention} (h : m ∈ mentions carried ls) :
    m.group = none := by
  induction ls generalizing carried with
  | nil => exact absurd h List.not_mem_nil
  | cons l ls ih =>
    rcases List.mem_append.1 h with h | h
    · cases hl : Line.read carried l with
      | version v =>
        rw [hl] at h
        obtain ⟨n, _, rfl⟩ := List.mem_map.1 h
        rfl
      | header | bareEntry | blank | other =>
        rw [hl] at h
        exact absurd h List.not_mem_nil
    · exact ih h

end Lockfile

theorem FileKind.group_of_mem_mentions {depth : Nat} {kind : FileKind} {content : Text} {m : Mention}
    (h : m ∈ kind.mentions depth content) : kind.IsGroup m.group := by
  cases kind with
  | manifest => exact Manifest.group_of_mem_mentions h
  | lockfile => exact Lockfile.group_of_mem_mentions h

/-- What a parser finds is on the list, names its file and kind, and has a group as files of the kind do. -/
theorem Source.of_mem_found {depth : Nat} {w : Watchlist} {s : Source} {f : Finding} (h : f ∈ s.found depth w) :
    f.file = s.candidate.path ∧ f.source = s.candidate.kind.fileName ∧ s.candidate.kind.IsGroup f.group ∧
      w.flags f.name f.version = true := by
  obtain ⟨m, hm, listed, made⟩ := mention_of_mem_found h
  obtain ⟨file, name, version, source, group⟩ := Mention.toFinding_eq_ok.1 made
  refine ⟨file, source, ?_, ?_⟩
  · rw [group]
    exact FileKind.group_of_mem_mentions hm
  · rw [name, version]
    exact listed

namespace Verdict

theorem ofCounts_eq_inconclusive {findings scanned : Int} : ofCounts findings scanned = .inconclusive ↔ scanned = 0 := by
  rw [ofCounts]
  split
  · simp_all
  · split <;> simp_all

theorem ofCounts_eq_findings {findings scanned : Int} :
    ofCounts findings scanned = .findings ↔ scanned ≠ 0 ∧ findings ≠ 0 := by
  rw [ofCounts]
  split
  · simp_all
  · split <;> simp_all

theorem ofCounts_eq_clean {findings scanned : Int} :
    ofCounts findings scanned = .clean ↔ scanned ≠ 0 ∧ findings = 0 := by
  rw [ofCounts]
  split
  · simp_all
  · split <;> simp_all

end Verdict

namespace Report

/-- Where a file stands among those that were scanned. -/
def position (r : Report) (file : Path) : Nat := (r.scanned.map (·.path)).idxOf file

/-- The value of a member of what a report says about itself. -/
def meta? (r : Report) (name : Text) : Option Json := (r.toJson.member? "meta".toList).bind (Json.member? name)

/-- What holds of a report whatever the tree and the list: its findings belong to its files in their order, and its
verdict, its reason and its counts agree with them. -/
structure Coherent (r : Report) (w : Watchlist) : Prop where
  file : ∀ f ∈ r.findings, ∃ c ∈ r.scanned, c.path = f.file
  source : ∀ f ∈ r.findings, f.source = f.file.name
  manifest : ∀ f ∈ r.findings, f.file.name = FileKind.manifest.fileName → ∃ g ∈ Manifest.groups, f.group = some g
  lockfile : ∀ f ∈ r.findings, f.file.name = FileKind.lockfile.fileName → f.group = none
  flagged : ∀ f ∈ r.findings, w.flags f.name f.version = true
  paths : (r.scanned.map (·.path)).Nodup
  keys : (r.findings.map Finding.key).Nodup
  ordered : r.findings.Pairwise fun f g => r.position f.file ≤ r.position g.file
  findings : r.verdict = .findings ↔ r.findings ≠ []
  inconclusive : r.verdict = .inconclusive ↔ r.scanned = []
  clean : r.verdict = .clean ↔ r.findings = [] ∧ r.scanned ≠ []
  passed : r.passed = true ↔ r.verdict = .clean
  reason : (r.meta? "reason".toList).isSome ↔ r.verdict = .inconclusive
  findingsCount : r.meta? "findingsCount".toList = some (.integer r.findings.length)
  scannedCount : r.meta? "scannedFilesCount".toList = some (.integer r.scanned.length)

variable {r : Report} {depth : Nat} {w : Watchlist} {n : Node}

theorem verdict_eq_inconclusive : r.verdict = .inconclusive ↔ r.scanned = [] := by
  rw [verdict, Verdict.ofCounts_eq_inconclusive]
  simp

theorem passed_iff : r.passed = true ↔ r.verdict = .clean := by
  rw [verdict, Verdict.ofCounts_eq_clean, passed, isInconclusive]
  simp [and_comm]

theorem meta?_reason : r.meta? "reason".toList = r.reason?.map Json.ofText := by
  have under : r.toJson.member? "meta".toList = some r.metaJson := by rfl
  rw [meta?, under, Option.bind_some, metaJson]
  cases r.reason? with
  | none => rfl
  | some text => rfl

theorem reason_iff : (r.meta? "reason".toList).isSome ↔ r.verdict = .inconclusive := by
  rw [meta?_reason, verdict_eq_inconclusive, reason?, isInconclusive]
  cases r.scanned <;> simp

theorem source_of_mem (h : r.Describes depth w n) {f : Finding} (hf : f ∈ r.findings) :
    ∃ c ∈ r.scanned, c.path = f.file ∧ f.file.name = c.kind.fileName ∧ f.source = c.kind.fileName ∧
      c.kind.IsGroup f.group ∧ w.flags f.name f.version = true := by
  obtain ⟨s, hs, found, place⟩ := h.placed f hf
  obtain ⟨-, source, group, flagged⟩ := Source.of_mem_found found
  obtain ⟨-, -, -, -, -, -, named, -, -⟩ := Source.mem_below.1 hs
  refine ⟨s.candidate, ?_, place.symm, ?_, source, group, flagged⟩
  · rw [h.scanned]
    exact List.mem_map_of_mem hs
  · rw [place]
    exact FileKind.name_of_ofName? named

/-- The findings of a file stand together, and the files stand in their order. -/
theorem ordered_of_describes (h : r.Describes depth w n) :
    r.findings.Pairwise fun f g => r.position f.file ≤ r.position g.file := by
  have place {s : Source} {f : Finding} (hf : f ∈ firsts (fun f => (f.name, f.version)) (s.found depth w)) :
      f.file = s.candidate.path := Source.file_of_mem_found (mem_of_mem_firsts hf)
  rw [h.findings, List.pairwise_flatMap]
  constructor
  · intro s _
    apply List.pairwise_of_forall_mem_list
    intro f hf g hg
    rw [place hf, place hg]
  · have sorted : (r.scanned.map (·.path)).Pairwise fun p q => r.position p ≤ r.position q := by
      rw [List.pairwise_iff_getElem]
      intro i j hi hj before
      rw [position, position, h.paths.idxOf_getElem i hi, h.paths.idxOf_getElem j hj]
      exact Nat.le_of_lt before
    rw [h.scanned, List.map_map, List.pairwise_map] at sorted
    apply sorted.imp
    intro s t le f hf g hg
    rw [place hf, place hg]
    exact le

theorem coherent_of_describes (h : r.Describes depth w n) : r.Coherent w where
  file f hf := by
    obtain ⟨c, hc, path, -⟩ := source_of_mem h hf
    exact ⟨c, hc, path⟩
  source f hf := by
    obtain ⟨c, -, -, named, source, -⟩ := source_of_mem h hf
    rw [source, named]
  manifest f hf kind := by
    obtain ⟨⟨path, k⟩, -, -, named, -, group, -⟩ := source_of_mem h hf
    cases k with
    | manifest => exact group
    | lockfile =>
      have other : FileKind.manifest.fileName = FileKind.lockfile.fileName :=
        CodePoint.ofText_inj.1 (kind.symm.trans named)
      exact absurd other (by decide)
  lockfile f hf kind := by
    obtain ⟨⟨path, k⟩, -, -, named, -, group, -⟩ := source_of_mem h hf
    cases k with
    | manifest =>
      have other : FileKind.lockfile.fileName = FileKind.manifest.fileName :=
        CodePoint.ofText_inj.1 (kind.symm.trans named)
      exact absurd other (by decide)
    | lockfile => exact group
  flagged f hf := by
    obtain ⟨c, -, -, -, -, -, flagged⟩ := source_of_mem h hf
    exact flagged
  paths := h.paths
  keys := h.once
  ordered := ordered_of_describes h
  findings := by
    rw [verdict, Verdict.ofCounts_eq_findings]
    constructor
    · rintro ⟨-, some_found⟩ none_found
      simp [none_found] at some_found
    · intro some_found
      obtain ⟨f, hf⟩ := List.exists_mem_of_ne_nil _ some_found
      -- A finding has its file among those that were scanned.
      obtain ⟨c, hc, -⟩ := source_of_mem h hf
      have scanned : r.scanned ≠ [] := List.ne_nil_of_mem hc
      simp [some_found, scanned]
  inconclusive := verdict_eq_inconclusive
  clean := by
    rw [verdict, Verdict.ofCounts_eq_clean]
    simp [and_comm]
  passed := passed_iff
  reason := reason_iff
  findingsCount := rfl
  scannedCount := rfl

end Report

namespace Audit

/-- Every report of a scan is coherent with the list that it was made with. -/
theorem scan_coherent {site : Site} {config : Config} {given : Option Watchlist} {root : Option Path} {r : Report}
    (tree : site.files.tree.NamesDistinct) (h : (scan site config given root).result = .ok r) :
    ∃ w, listFor site config given = .ok w ∧ r.Coherent w := by
  obtain ⟨place, n, w, -, hn, hw, rfl⟩ := scan_eq_ok.1 h
  have distinct : n.NamesDistinct := namesDistinct_of_rootAt tree hn
  exact ⟨w, hw, Report.coherent_of_describes (scanTree_describes site.depth w place distinct site.now.stamp)⟩

theorem scan_coherent_lodash :
    let w := Watchlist.parse "lodash: 1".toList
    ∃ r, (scan (lockfileSite "lodash@^1:\n  version \"1\"\n".toList) topConfig (some w) none).result = .ok r ∧
      r.verdict = .findings ∧ r.Coherent w := by
  intro w
  have evaluated : (scan (lockfileSite "lodash@^1:\n  version \"1\"\n".toList) topConfig (some w) none).result.toOption.map
      (·.verdict) = some .findings := by decide +kernel
  obtain ⟨r, h, fails⟩ := exists_of_toOption_map evaluated
  obtain ⟨_, same, coherent⟩ := scan_coherent (namesDistinct_lockfileAlone _) h
  obtain rfl := Except.ok.inj same
  exact ⟨r, h, fails, coherent⟩

end Audit

end DependencyAudit
