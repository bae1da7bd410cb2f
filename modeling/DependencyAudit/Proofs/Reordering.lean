import DependencyAudit.Proofs.Faults
import DependencyAudit.Proofs.Shape
import Mathlib.Data.List.Perm.Basic

namespace DependencyAudit

section Perm

variable {α β : Type}

theorem perm_flatMap_of_forall₂ {f : α → List β} {as bs : List α}
    (h : List.Forall₂ (fun a b => (f a).Perm (f b)) as bs) : (as.flatMap f).Perm (bs.flatMap f) := by
  induction h with
  | nil => exact .nil
  | cons first _ ih =>
    rw [List.flatMap_cons, List.flatMap_cons]
    exact first.append ih

/-- Of items with distinct keys at most one has a given key, so their order does not show. -/
theorem filter_eq_of_perm [DecidableEq β] {key : α → β} {as bs : List α} (h : as.Perm bs) (nodup : (as.map key).Nodup)
    (b : β) : (as.filter fun a => key a = b) = bs.filter fun a => key a = b := by
  have perm : (as.filter fun a => key a = b).Perm (bs.filter fun a => key a = b) := h.filter _
  have keys : ((as.filter fun a => key a = b).map key).Nodup := nodup.sublist ((List.filter_sublist ..).map key)
  cases kept : as.filter fun a => key a = b with
  | nil =>
    rw [kept] at perm
    exact perm.nil_eq
  | cons a rest =>
    cases rest with
    | nil =>
      rw [kept] at perm
      exact perm.singleton_eq
    | cons c rest =>
      have same {x : α} (hx : x ∈ as.filter fun a => key a = b) : key x = b := by simpa using (List.mem_filter.1 hx).2
      have ha : key a = b := same (by simp [kept])
      have hc : key c = b := same (by simp [kept])
      simp [kept, ha, hc] at keys

end Perm

namespace Node

/-- Trees that differ only in the order in which their directories enumerate the entries: a directory has the same
names on both sides, and under each name there is the same but for the order further below. -/
inductive Reordered : Node → Node → Prop
  | file {bytes : List UInt8} : Reordered (.file bytes) (.file bytes)
  | directory {listable : Bool} {ds es : List (Entry Node)} (names : (ds.map (·.name)).Perm (es.map (·.name)))
      (flags : ∀ d ∈ ds, ∀ e ∈ es, d.name = e.name → d.checkFails = e.checkFails ∧ d.isBarred = e.isBarred)
      (nodes : ∀ d ∈ ds, ∀ e ∈ es, d.name = e.name → d.node.Reordered e.node) :
      Reordered (.directory listable ds) (.directory listable es)
  | link {target : Name} : Reordered (.link target) (.link target)
  | special {content : List UInt8} : Reordered (.special content) (.special content)

/-- The entries of the second directory in the order of the first. -/
theorem exists_aligned {R : Entry Node → Entry Node → Prop} {ds es : List (Entry Node)}
    (names : (ds.map (·.name)).Perm (es.map (·.name))) (each : ∀ d ∈ ds, ∀ e ∈ es, d.name = e.name → R d e) :
    ∃ ms, List.Forall₂ R ds ms ∧ ms.Perm es := by
  have own : List.Forall₂ (fun n (e : Entry Node) => n = e.name) (es.map (·.name)) es := by
    rw [List.forall₂_map_left_iff, List.forall₂_same]
    intro e _
    rfl
  obtain ⟨ms, aligned, perm⟩ := List.perm_comp_forall₂ names own
  refine ⟨ms, ?_, perm⟩
  rw [List.forall₂_map_left_iff, List.forall₂_iff_zip] at aligned
  rw [List.forall₂_iff_zip]
  refine ⟨aligned.1, ?_⟩
  intro d m both
  obtain ⟨hd, hm⟩ := List.of_mem_zip both
  exact each d hd m (perm.mem_iff.1 hm) (aligned.2 both)

namespace Reordered

variable {n m : Node}

theorem shape (h : n.Reordered m) : m.shape = n.shape := by
  cases h <;> rfl

theorem linkCount (h : n.Reordered m) : m.linkCount = n.linkCount := by
  have counts (es : List (Entry Node)) : linkCounts es = (es.map fun e => e.node.linkCount).sum := by
    induction es with
    | nil => rfl
    | cons e es ih => rw [linkCounts, ih, List.map_cons, List.sum_cons]
  induction h with
  | @directory listable ds es names flags nodes ih =>
    obtain ⟨ms, aligned, perm⟩ := exists_aligned names ih
    have same : ms.map (fun e => e.node.linkCount) = ds.map fun e => e.node.linkCount := by
      rw [← List.forall₂_eq_eq_eq, List.forall₂_map_left_iff, List.forall₂_map_right_iff]
      exact aligned.flip
    rw [Node.linkCount, Node.linkCount, counts, counts, ← same]
    exact (perm.map _).sum_nat.symm
  | file => rfl
  | link => rfl
  | special => rfl

theorem namesDistinct (h : n.Reordered m) (distinct : n.NamesDistinct) : m.NamesDistinct := by
  induction h with
  | @directory listable ds es names flags nodes ih =>
    cases distinct with
    | directory nodup inner =>
      refine .directory (names.nodup_iff.1 nodup) ?_
      intro e he
      obtain ⟨d, hd, same⟩ := List.mem_map.1 (names.mem_iff.2 (List.mem_map_of_mem he))
      exact ih d hd e he same (inner d hd)
  | file => exact .file
  | link => exact .link
  | special => exact .special

theorem child? (h : n.Reordered m) (distinct : n.NamesDistinct) (name : Name) :
    Option.Rel Reordered (n.child? name) (m.child? name) := by
  have distinct' := h.namesDistinct distinct
  cases h with
  | @directory listable ds es names flags nodes =>
    cases found : (Node.directory listable ds).child? name with
    | some k =>
      obtain ⟨d, hd, rfl, rfl⟩ := exists_entry_of_child? found
      obtain ⟨e, he, same⟩ := List.mem_map.1 (names.mem_iff.1 (List.mem_map_of_mem hd))
      rw [← same, distinct'.child?_of_mem he]
      exact .some (nodes d hd e he same.symm)
    | none =>
      have missing : (Node.directory listable es).child? name = none := by
        rw [Option.eq_none_iff_forall_ne_some]
        intro k hk
        obtain ⟨e, he, rfl, -⟩ := exists_entry_of_child? hk
        obtain ⟨d, hd, same⟩ := List.mem_map.1 (names.mem_iff.2 (List.mem_map_of_mem he))
        rw [← same, distinct.child?_of_mem hd] at found
        cases found
      rw [missing]
      exact .none
  | file => exact .none
  | link => exact .none
  | special => exact .none

theorem at? (h : n.Reordered m) (distinct : n.NamesDistinct) (names : List Name) :
    Option.Rel Reordered (n.at? names) (m.at? names) := by
  induction names generalizing n m with
  | nil => exact .some h
  | cons name names ih =>
    simp only [Node.at?, List.foldlM_cons] at ih ⊢
    have first := h.child? distinct name
    cases hn : n.child? name with
    | none =>
      rw [hn] at first
      cases hm : m.child? name with
      | none => exact .none
      | some _ =>
        rw [hm] at first
        cases first
    | some k =>
      rw [hn] at first
      cases hm : m.child? name with
      | none =>
        rw [hm] at first
        cases first
      | some _ =>
        rw [hm] at first
        cases first with
        | some same => exact ih same (distinct.child hn)

end Reordered

end Node

namespace FileSystem

/-- File trees at one base that differ only in the order in which their directories enumerate the entries. -/
structure Reordered (fs fs' : FileSystem) : Prop where
  base : fs'.base = fs.base
  here : fs'.here = fs.here
  tree : fs.tree.Reordered fs'.tree
  denials : fs'.denials = fs.denials

namespace Reordered

variable {fs fs' : FileSystem} (h : fs.Reordered fs') (distinct : fs.tree.NamesDistinct)

include h distinct

theorem at? (place : List Name) : Option.Rel Node.Reordered (fs.at? place) (fs'.at? place) := by
  rw [FileSystem.at?, FileSystem.at?, h.base]
  split
  · exact h.tree.at? distinct _
  · split
    · refine .some (.directory .rfl ?_ ?_)
      all_goals exact fun d hd => absurd hd List.not_mem_nil
    · exact .none

theorem sameShape : fs.SameShape fs' where
  base := h.base
  here := h.here
  links := h.tree.linkCount
  shapes place := by
    rw [shapeAt, shapeAt]
    generalize fs.at? place = found, fs'.at? place = found', h.at? distinct place = related
    cases related with
    | none => rfl
    | some same => exact congrArg some same.shape

theorem stat (t : Name) :
    (∃ fault, fs.stat t = .error fault ∧ fs'.stat t = .error fault) ∨
      ∃ n n', fs.stat t = .ok n ∧ fs'.stat t = .ok n' ∧ n.Reordered n' := by
  rcases (h.sameShape distinct).stat t with failed | ⟨place, n, n', hs, hs', hn, hn'⟩
  · exact .inl failed
  · have related := h.at? distinct place
    rw [hn, hn'] at related
    cases related with
    | some same => exact .inr ⟨n, n', hs, hs', same⟩

/-- What a file gives does not depend on the order of the entries around it. -/
theorem read (t : Name) : fs'.read t = fs.read t := by
  rw [FileSystem.read, FileSystem.read, (h.sameShape distinct).placeOf, h.denials]
  cases fs.placeOf t with
  | error fault => rfl
  | ok place =>
    simp only [Except.bind, standingAt]
    generalize fs.at? place = found, fs'.at? place = found', h.at? distinct place = related
    cases related with
    | none => rfl
    | some same =>
      cases same with
      | directory => simp [Node.isDirectory, Node.content]
      | file | link | special => rfl

theorem openFile (t : Name) : fs'.openFile t = fs.openFile t := by
  rw [FileSystem.openFile, FileSystem.openFile, h.read distinct]

end Reordered

end FileSystem

namespace Source

section Entries

variable {ds es : List (Entry Node)} (names : (ds.map (·.name)).Perm (es.map (·.name)))
  (flags : ∀ d ∈ ds, ∀ e ∈ es, d.name = e.name → d.checkFails = e.checkFails ∧ d.isBarred = e.isBarred)

include names flags

/-- If the same candidates can be read at nodes of one name, so they can below two directories. -/
theorem perm_below_directory (root : Path) (listable : Bool)
    (nodes : ∀ d ∈ ds, ∀ e ∈ es, d.name = e.name → ∀ checkFails isBarred,
      (atEntry root ⟨d.name, checkFails, isBarred, d.node⟩).Perm
        (atEntry root ⟨d.name, checkFails, isBarred, e.node⟩)) :
    (below root (.directory listable ds)).Perm (below root (.directory listable es)) := by
  rw [below_directory, below_directory]
  cases listable with
  | false => exact .rfl
  | true =>
    have each : ∀ d ∈ ds, ∀ e ∈ es, d.name = e.name → (atEntry root d).Perm (atEntry root e) := by
      intro d hd e he same
      obtain ⟨checks, bars⟩ := flags d hd e he same
      have other : (⟨d.name, d.checkFails, d.isBarred, e.node⟩ : Entry Node) = e := by rw [same, checks, bars]
      have node := nodes d hd e he same d.checkFails d.isBarred
      rw [other] at node
      exact node
    obtain ⟨ms, aligned, perm⟩ := Node.exists_aligned names each
    exact (perm_flatMap_of_forall₂ aligned).trans (perm.flatMap_right _)

end Entries

/-- In another order of the entries the same candidates can be read, in some order. -/
theorem perm_atEntry {n m : Node} (h : n.Reordered m) (directory : Path) (name : Name) (checkFails isBarred : Bool) :
    (atEntry directory ⟨name, checkFails, isBarred, n⟩).Perm (atEntry directory ⟨name, checkFails, isBarred, m⟩) := by
  induction h generalizing directory name checkFails isBarred with
  | @directory listable ds es names flags nodes ih =>
    cases checkFails with
    | true => rw [atEntry_failing, atEntry_failing]
    | false =>
      rw [atEntry_directory, atEntry_directory]
      split
      · exact .nil
      · exact perm_below_directory names flags _ listable fun d hd e he same => ih d hd e he same _ _
  | file => exact .rfl
  | link => exact .rfl
  | special => exact .rfl

theorem perm_below {n m : Node} (h : n.Reordered m) (root : Path) : (below root n).Perm (below root m) := by
  cases h with
  | directory names flags nodes =>
    exact perm_below_directory names flags root _ fun d hd e he same => perm_atEntry (nodes d hd e he same) root _
  | file => exact .nil
  | link => exact .nil
  | special => exact .nil

end Source

theorem Node.NamesDistinct.pair {listable : Bool} {d e : Entry Node} (apart : d.name ≠ e.name)
    (hd : d.node.NamesDistinct) (he : e.node.NamesDistinct) : (Node.directory listable [d, e]).NamesDistinct := by
  refine .directory (by simpa using apart) ?_
  simpa using ⟨hd, he⟩

theorem Node.Reordered.swap {listable : Bool} {d e : Entry Node} {n m : Node} (apart : d.name ≠ e.name)
    (hd : d.node.Reordered n) (he : e.node.Reordered m) :
    (Node.directory listable [d, e]).Reordered (.directory listable [{ e with node := m }, { d with node := n }]) := by
  refine .directory (.swap ..) ?_ ?_
  · rintro a ha b hb same
    simp only [List.mem_cons, List.not_mem_nil, or_false] at ha hb
    rcases ha with rfl | rfl
    · rcases hb with rfl | rfl
      · exact absurd same apart
      · exact ⟨rfl, rfl⟩
    · rcases hb with rfl | rfl
      · exact ⟨rfl, rfl⟩
      · exact absurd same.symm apart
  · rintro a ha b hb same
    simp only [List.mem_cons, List.not_mem_nil, or_false] at ha hb
    rcases ha with rfl | rfl
    · rcases hb with rfl | rfl
      · exact absurd same apart
      · exact hd
    · rcases hb with rfl | rfl
      · exact he
      · exact absurd same.symm apart

/-- Reports that say the same of each file, list the files and the findings in any order, and tell the same of
themselves. -/
structure Report.Rearranged (r r' : Report) : Prop where
  scanned : r'.scanned.Perm r.scanned
  findings : r'.findings.Perm r.findings
  ofFile : ∀ p, (r'.findings.filter fun f => f.file = p) = r.findings.filter fun f => f.file = p
  verdict : r'.verdict = r.verdict
  passed : r'.passed = r.passed
  reason : r'.reason? = r.reason?
  metaJson : r'.metaJson = r.metaJson

theorem Report.rearranged_of_perm {r r' : Report} (scanned : r'.scanned.Perm r.scanned)
    (findings : r'.findings.Perm r.findings)
    (ofFile : ∀ p, (r'.findings.filter fun f => f.file = p) = r.findings.filter fun f => f.file = p)
    (root : r'.root = r.root) (packages : r'.packageCount = r.packageCount)
    (versions : r'.versionCount = r.versionCount) (time : r'.generatedAt = r.generatedAt)
    (scanner : r'.scanner = r.scanner) (version : r'.version = r.version) : r.Rearranged r' := by
  have inconclusive : r'.isInconclusive = r.isInconclusive := scanned.isEmpty_eq
  have verdict : r'.verdict = r.verdict := by
    rw [Report.verdict, Report.verdict, scanned.length_eq, findings.length_eq]
  have passed : r'.passed = r.passed := by rw [Report.passed, Report.passed, findings.isEmpty_eq, inconclusive]
  have reason : r'.reason? = r.reason? := by rw [reason?, reason?, inconclusive]
  refine ⟨scanned, findings, ofFile, verdict, passed, reason, ?_⟩
  rw [metaJson, metaJson, root, packages, versions, time, scanner, version, verdict, passed, reason, scanned.length_eq,
    findings.length_eq]

namespace Audit

theorem scanTree_reordered {n m : Node} (h : n.Reordered m) (distinct : n.NamesDistinct) (depth : Nat) (w : Watchlist)
    (root : Path) (stamp : Text) :
    (scanTree depth w root (.ok n) stamp).1.Rearranged (scanTree depth w root (.ok m) stamp).1 := by
  have perm : (Source.below root m).Perm (Source.below root n) := (Source.perm_below h root).symm
  have once : ((Source.below root n).map fun s => s.candidate.path).Nodup := Source.nodup_paths distinct
  have once' : ((Source.below root m).map fun s => s.candidate.path).Nodup :=
    Source.nodup_paths (h.namesDistinct distinct)
  have ofFile (p : Path) (k : Node) : (firsts Finding.key ((Source.below root k).flatMap (Source.found depth w))).filter
      (fun f => f.file = p) = firsts Finding.key (((Source.below root k).filter fun s => s.candidate.path = p).flatMap
        (Source.found depth w)) := by
    have kept := Source.flatMap_found_filter depth w (fun q => q ≠ p) (Source.below root k)
    simp only [decide_not, Bool.not_not] at kept
    rw [kept]
    apply Eq.symm
    apply firsts_filter
    intro f g same
    have file : f.file = g.file := congrArg Finding.Key.file same
    rw [file]
  apply Report.rearranged_of_perm
  · rw [scanTree_eq, scanTree_eq]
    exact perm.map _
  · rw [scanTree_eq, scanTree_eq, Report.ofParts, Report.ofParts, Source.distinct_found once,
      Source.distinct_found once']
    exact perm.flatMap_right _
  · intro p
    rw [scanTree_eq, scanTree_eq, Report.ofParts, Report.ofParts, Finding.distinct_eq_firsts,
      Finding.distinct_eq_firsts, ofFile, ofFile, filter_eq_of_perm perm once']
  all_goals rw [scanTree_eq, scanTree_eq]; rfl

section Site

variable {fs fs' : FileSystem} (h : fs.Reordered fs') (distinct : fs.tree.NamesDistinct)

include h distinct

theorem rootAt_reordered (root : Path) :
    (∃ f, rootAt fs root = .error f ∧ rootAt fs' root = .error f) ∨
      ∃ n m, rootAt fs root = .ok n ∧ rootAt fs' root = .ok m ∧ n.Reordered m := by
  rw [rootAt, rootAt]
  rcases h.stat distinct root.text with ⟨fault, hs, hs'⟩ | ⟨n, m, hs, hs', same⟩
  · rw [hs, hs']
    cases fault <;> exact .inl ⟨_, rfl, rfl⟩
  · rw [hs, hs']
    cases same with
    | directory names flags nodes => exact .inr ⟨_, _, rfl, rfl, .directory names flags nodes⟩
    | file => exact .inl ⟨_, rfl, rfl⟩
    | link => exact .inl ⟨_, rfl, rfl⟩
    | special => exact .inl ⟨_, rfl, rfl⟩

theorem rootFor_reordered (config : Config) (root : Option Path) : rootFor fs' config root = rootFor fs config root := by
  cases root with
  | none => rfl
  | some r => rw [rootFor, rootFor, (h.sameShape distinct).resolve]

/-- A list in a file is the same list. -/
theorem listFor_reordered (config : Config) (given : Option Watchlist) (replies : List Download.Reply) (now : Moment)
    (depth : Nat) :
    listFor ⟨fs', replies, now, depth⟩ config given = listFor ⟨fs, replies, now, depth⟩ config given := by
  have load (source : ListSource) : source.load fs' = source.load fs := by
    cases source with
    | packaged => rfl
    | file p => rw [ListSource.load, ListSource.load, ListSource.text, ListSource.text, h.openFile distinct]
  cases given with
  | some w => rfl
  | none =>
    rw [listFor, listFor, loadWatchlist, loadWatchlist]
    simp only [load]

/-- The order in which directories enumerate their entries does not show in what a scan finds: it fails with the same
failure, or its report tells the same of every file and of itself. -/
theorem scan_reordered (config : Config) (given : Option Watchlist) (root : Option Path)
    (replies : List Download.Reply) (now : Moment) (depth : Nat) :
    (∃ f, (scan ⟨fs, replies, now, depth⟩ config given root).result = .error f ∧
      (scan ⟨fs', replies, now, depth⟩ config given root).result = .error f) ∨
    ∃ r r', (scan ⟨fs, replies, now, depth⟩ config given root).result = .ok r ∧
      (scan ⟨fs', replies, now, depth⟩ config given root).result = .ok r' ∧ r.Rearranged r' := by
  rw [scan_result, scan_result]
  simp only [rootFor_reordered h distinct, listFor_reordered h distinct]
  cases rootFor fs config root with
  | error f => exact .inl ⟨f, rfl, rfl⟩
  | ok place =>
    simp only [Except.bind]
    rcases rootAt_reordered h distinct place with ⟨f, hn, hm⟩ | ⟨n, m, hn, hm, same⟩
    · rw [hn, hm]
      exact .inl ⟨f, rfl, rfl⟩
    · rw [hn, hm]
      cases listFor ⟨fs, replies, now, depth⟩ config given with
      | error f => exact .inl ⟨f, rfl, rfl⟩
      | ok w =>
        have distinct' := namesDistinct_of_rootAt distinct hn
        exact .inr ⟨_, _, rfl, rfl, scanTree_reordered same distinct' depth w place now.stamp⟩

end Site

/-- Lockfiles at three depths, each beside the directory that holds the next. -/
def nestedLockfiles (text : Text) : FileSystem :=
  let directory (name : String) (es : List (Entry Node)) : Entry Node := ⟨name.toList, false, false, .directory true es⟩
  ⟨[], .directory true [directory "api" [directory "old" [lockfileEntry text], lockfileEntry text],
    lockfileEntry text], [], .none⟩

/-- The same files, with each lockfile in front of the directory. -/
def nestedLockfilesFirst (text : Text) : FileSystem :=
  let directory (name : String) (es : List (Entry Node)) : Entry Node := ⟨name.toList, false, false, .directory true es⟩
  ⟨[], .directory true [lockfileEntry text, directory "api" [lockfileEntry text,
    directory "old" [lockfileEntry text]]], [], .none⟩

theorem api_ne_lockfile : CodePoint.ofText "api".toList ≠ CodePoint.ofText FileKind.lockfile.fileName := by decide

theorem old_ne_lockfile : CodePoint.ofText "old".toList ≠ CodePoint.ofText FileKind.lockfile.fileName := by decide

theorem namesDistinct_nestedLockfiles (text : Text) : (nestedLockfiles text).tree.NamesDistinct := by
  have alone : (Node.directory true [lockfileEntry text]).NamesDistinct := namesDistinct_lockfileAlone text
  have file : (lockfileEntry text).node.NamesDistinct := .file
  exact .pair api_ne_lockfile (.pair old_ne_lockfile alone file) file

theorem nestedLockfiles_reordered (text : Text) : (nestedLockfiles text).Reordered (nestedLockfilesFirst text) where
  base := rfl
  here := rfl
  denials := rfl
  tree := by
    have alone : (Node.directory true [lockfileEntry text]).Reordered (.directory true [lockfileEntry text]) := by
      refine .directory .rfl ?_ ?_
      · intro d hd e he _
        obtain rfl := List.mem_singleton.1 hd
        obtain rfl := List.mem_singleton.1 he
        exact ⟨rfl, rfl⟩
      · intro d hd e he _
        obtain rfl := List.mem_singleton.1 hd
        obtain rfl := List.mem_singleton.1 he
        exact .file
    have file : (lockfileEntry text).node.Reordered (.file (Utf8.encode text)) := .file
    exact .swap api_ne_lockfile (.swap old_ne_lockfile alone file) file

theorem scan_reordered_lodash :
    let text := "lodash@^1:\n  version \"1\"\n".toList
    let result (fs : FileSystem) :=
      (scan ⟨fs, [], ⟨2025, 1, 2, 3, 4, 5, 0⟩, 1000⟩ topConfig (some (Watchlist.parse "lodash: 1".toList)) none).result
    let below (way : List String) : List Name :=
      (way.map String.toList ++ [FileKind.lockfile.fileName]).map CodePoint.ofText
    (nestedLockfiles text).Reordered (nestedLockfilesFirst text) ∧ (nestedLockfiles text).tree.NamesDistinct ∧
    ∃ r r', result (nestedLockfiles text) = .ok r ∧ result (nestedLockfilesFirst text) = .ok r' ∧ r.Rearranged r' ∧
      r.findings.map (·.file.names) = [below ["api", "old"], below ["api"], below []] ∧
      r'.findings.map (·.file.names) = [below [], below ["api"], below ["api", "old"]] := by
  intro text result below
  have files : (result (nestedLockfiles text)).toOption.map (fun r => r.findings.map (·.file.names)) =
      some [below ["api", "old"], below ["api"], below []] := by decide +kernel
  have filesFirst : (result (nestedLockfilesFirst text)).toOption.map (fun r => r.findings.map (·.file.names)) =
      some [below [], below ["api"], below ["api", "old"]] := by decide +kernel
  obtain ⟨r, h, found⟩ := exists_of_toOption_map files
  obtain ⟨r', h', found'⟩ := exists_of_toOption_map filesFirst
  have reordered := nestedLockfiles_reordered text
  have distinct := namesDistinct_nestedLockfiles text
  refine ⟨reordered, distinct, r, r', h, h', ?_, found, found'⟩
  rcases scan_reordered reordered distinct topConfig (some (Watchlist.parse "lodash: 1".toList)) none []
    ⟨2025, 1, 2, 3, 4, 5, 0⟩ 1000 with ⟨f, failed, -⟩ | ⟨_, _, same, same', rearranged⟩
  · cases h.symm.trans failed
  · obtain rfl := Except.ok.inj (h.symm.trans same)
    obtain rfl := Except.ok.inj (h'.symm.trans same')
    exact rearranged

end Audit

end DependencyAudit
