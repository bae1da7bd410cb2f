import DependencyAudit.Proofs.Contents

namespace DependencyAudit

/-- A report tells of exactly the candidates that can be read in the tree at its root, in depth-first order, and of the
first finding for each package version of each of them, file by file. -/
structure Report.Describes (r : Report) (depth : Nat) (w : Watchlist) (n : Node) : Prop where
  scanned : r.scanned = (Source.below r.root n).map (·.candidate)
  reached : ∀ c, c ∈ r.scanned ↔ ∃ text, Source.LiesBelow r.root n ⟨c, text⟩
  findings : r.findings =
    (Source.below r.root n).flatMap fun s => firsts (fun f => (f.name, f.version)) (s.found depth w)
  paths : (r.scanned.map (·.path)).Nodup
  once : (r.findings.map Finding.key).Nodup
  kept : ∀ s ∈ Source.below r.root n, ∀ f ∈ s.found depth w, ∃ g ∈ r.findings, g.key = f.key
  placed : ∀ f ∈ r.findings, ∃ s ∈ Source.below r.root n, f ∈ s.found depth w ∧ f.file = s.candidate.path

/-- What a walk from a root comes to is what lies below it. -/
theorem Source.filterMap_visits (root : Path) (n : Node) :
    (Walk.visits Walk.ignoredNames root (.ok n)).filterMap ofVisit? = below root n := by
  cases n with
  | directory listable es =>
    cases listable with
    | true =>
      rw [Walk.visits_directory]
      rfl
    | false => rfl
  | file | link | special => rfl

namespace Audit

/-- The root of a scan: the configured one, or another one as it resolves. -/
def rootFor (fs : FileSystem) (config : Config) : Option Path → Except Failure Path
  | none => .ok config.root
  | some r => (fs.resolve r).mapError Failure.ofResolve

/-- The list of a scan: the one at hand, or the one it loads. -/
def listFor (site : Site) (config : Config) : Option Watchlist → Except Failure Watchlist
  | none => (loadWatchlist site config).result
  | some w => .ok w

theorem scan_result (site : Site) (config : Config) (given : Option Watchlist) (root : Option Path) :
    (scan site config given root).result =
      (rootFor site.files config root).bind fun place => (rootAt site.files place).bind fun n =>
        (listFor site config given).map fun w => (scanTree site.depth w place (.ok n) site.now.stamp).1 := by
  unfold scan
  cases root with
  | none =>
    simp only [rootFor, Except.bind]
    cases rootAt site.files config.root with
    | error f => rfl
    | ok n =>
      cases given with
      | none =>
        simp only [listFor]
        cases (loadWatchlist site config).result <;> rfl
      | some w => rfl
  | some r =>
    simp only [rootFor]
    cases site.files.resolve r with
    | error f => rfl
    | ok place =>
      simp only [Except.mapError, Except.bind]
      cases rootAt site.files place with
      | error f => rfl
      | ok n =>
        cases given with
        | none =>
          simp only [listFor]
          cases (loadWatchlist site config).result <;> rfl
        | some w => rfl

/-- A scan that reports has a root and a list, and reports on the tree at the root. -/
theorem scan_eq_ok {site : Site} {config : Config} {given : Option Watchlist} {root : Option Path} {r : Report} :
    (scan site config given root).result = .ok r ↔
      ∃ place n w, rootFor site.files config root = .ok place ∧ rootAt site.files place = .ok n ∧
        listFor site config given = .ok w ∧ r = (scanTree site.depth w place (.ok n) site.now.stamp).1 := by
  rw [scan_result]
  cases rootFor site.files config root with
  | error f => simp [Except.bind]
  | ok place =>
    cases hn : rootAt site.files place with
    | error f => simp [Except.bind, hn]
    | ok n =>
      cases listFor site config given with
      | error f => simp [Except.bind, Except.map, hn]
      | ok w => simp [Except.bind, Except.map, hn, eq_comm]

/-- What a scan reports of a tree does not depend on the names of its directories being distinct, but for the findings
of two files at one path. -/
theorem scanTree_eq (depth : Nat) (w : Watchlist) (root : Path) (n : Node) (stamp : Text) :
    (scanTree depth w root (.ok n) stamp).1 =
      Report.ofParts w root (Finding.distinct ((Source.below root n).flatMap (Source.found depth w)))
        ((Source.below root n).map (·.candidate)) stamp := by
  obtain ⟨scanned, findings⟩ := results_eq depth w (Walk.visits Walk.ignoredNames root (.ok n))
  rw [Source.filterMap_visits] at scanned findings
  rw [← scanned, ← findings]
  exact assemble_eq ..

theorem scanTree_root (depth : Nat) (w : Watchlist) (root : Path) (n : Node) (stamp : Text) :
    (scanTree depth w root (.ok n) stamp).1.root = root := by
  rw [scanTree_eq]
  rfl

theorem scanTree_describes (depth : Nat) (w : Watchlist) (root : Path) {n : Node} (h : n.NamesDistinct) (stamp : Text) :
    (scanTree depth w root (.ok n) stamp).1.Describes depth w n := by
  have nodup : ((Source.below root n).map fun s => s.candidate.path).Nodup := Source.nodup_paths h
  rw [scanTree_eq]
  constructor
  case scanned => rfl
  case reached =>
    intro c
    constructor
    · intro hc
      obtain ⟨s, hs, rfl⟩ := List.mem_map.1 hc
      exact ⟨s.text, Source.mem_below.1 hs⟩
    · rintro ⟨text, hs⟩
      exact List.mem_map.2 ⟨_, Source.mem_below.2 hs, rfl⟩
  case findings => exact Source.distinct_found nodup
  case paths =>
    rw [Report.ofParts, List.map_map]
    exact nodup
  case once =>
    rw [Report.ofParts, Finding.distinct_eq_firsts]
    exact nodup_keys_firsts Finding.key _
  case kept =>
    intro s hs f hf
    rw [Report.ofParts, Finding.distinct_eq_firsts]
    exact exists_mem_firsts (List.mem_flatMap.2 ⟨s, hs, hf⟩)
  case placed =>
    intro f hf
    exact Source.exists_of_mem_distinct hf

/-- A report that one run of a scanner gives, with what it is a report on. -/
def Errand.Reports (e : Errand) (config : Config) (given : Option Watchlist) (r : Report) : Prop :=
  ∃ replies n w, rootFor e.files config e.root = .ok r.root ∧ rootAt e.files r.root = .ok n ∧
    listFor ⟨e.files, replies, e.now, e.depth⟩ config given = .ok w ∧ r.Describes e.depth w n

theorem scan_reports {e : Errand} {replies : List Download.Reply} {config : Config} {given : Option Watchlist}
    {r : Report} (h : (scan ⟨e.files, replies, e.now, e.depth⟩ config given e.root).result = .ok r)
    (tree : e.files.tree.NamesDistinct) : e.Reports config given r := by
  obtain ⟨place, n, w, hplace, hn, hw, rfl⟩ := scan_eq_ok.1 h
  have root := scanTree_root e.depth w place n e.now.stamp
  refine ⟨replies, n, w, ?_, ?_, hw, ?_⟩
  · exact root.symm ▸ hplace
  · exact root.symm ▸ hn
  · exact scanTree_describes e.depth w place (namesDistinct_of_rootAt tree hn) _

/-- However often a scanner has run, each of its reports is a report on the tree that it has met then. -/
theorem runs_report (config : Config) (given : Option Watchlist) (replies : List Download.Reply)
    (errands : List Errand) (trees : ∀ e ∈ errands, e.files.tree.NamesDistinct) :
    List.Forall₂ (fun e run => ∀ r, run.result = .ok r → e.Reports config given r) errands
      (runs config given replies errands) := by
  induction errands generalizing replies with
  | nil => exact .nil
  | cons e es ih =>
    have later := ih (scan ⟨e.files, replies, e.now, e.depth⟩ config given e.root).replies fun d hd =>
      trees d (List.mem_cons_of_mem e hd)
    refine .cons ?_ later
    intro r hr
    exact scan_reports hr (trees e List.mem_cons_self)

/-- A file system that holds a lockfile and nothing else. -/
def lockfileAlone (text : Text) : FileSystem :=
  ⟨[], .directory true [⟨FileKind.lockfile.fileName, false, false, .file (Utf8.encode text)⟩], [], .none⟩

/-- The settings for an audit of all files. -/
def topConfig : Config := ⟨⟨.root, []⟩, ⟨.root, []⟩, none, none, 1⟩

theorem namesDistinct_lockfileAlone (text : Text) : (lockfileAlone text).tree.NamesDistinct := by
  refine .directory (List.nodup_singleton _) ?_
  intro e he
  obtain rfl := List.mem_singleton.1 he
  exact .file

def lodashErrand : Errand := ⟨lockfileAlone "lodash@^1:\n  version \"1\"\n".toList, ⟨2025, 1, 2, 3, 4, 5, 0⟩, 1000, none⟩

theorem runs_report_lodash :
    let given := some (Watchlist.parse "lodash: 1".toList)
    (runs topConfig given [] [lodashErrand, lodashErrand]).map
        (fun run => run.result.toOption.map fun r => r.findings.map fun f => (f.name, f.version)) =
      [some [("lodash".toList, "1".toList)], some [("lodash".toList, "1".toList)]] ∧
    List.Forall₂ (fun e run => ∀ r, run.result = .ok r → e.Reports topConfig given r) [lodashErrand, lodashErrand]
      (runs topConfig given [] [lodashErrand, lodashErrand]) := by
  have trees : ∀ e ∈ [lodashErrand, lodashErrand], e.files.tree.NamesDistinct := by
    intro e he
    obtain rfl : e = lodashErrand := by simpa using he
    exact namesDistinct_lockfileAlone _
  exact ⟨by decide +kernel, runs_report topConfig _ [] [lodashErrand, lodashErrand] trees⟩

end Audit

end DependencyAudit
