import DependencyAudit.Proofs.LongerList
import DependencyAudit.Proofs.Outline

namespace DependencyAudit

/-- Bytes that are the encoding of no text. -/
structure Garbage where
  bytes : List UInt8
  unreadable : (FileSystem.textOf bytes).toOption = none

/-- Faults in a file tree, each at a place that is given by its names from the top: directories that cannot be listed,
entries whose check fails, files that cannot be opened, and files that hold garbage. -/
structure Faults where
  unlistable : List Name → Bool
  failing : List Name → Bool
  barred : List Name → Bool
  garbled : List Name → Option Garbage

namespace Faults

variable (F : Faults)

mutual

def onNode (place : List Name) : Node → Node
  | .file bytes => .file (((F.garbled place).map Garbage.bytes).getD bytes)
  | .directory listable es => .directory (listable && !F.unlistable place) (onEntries place es)
  | .link target => .link target
  | .special content => .special content
termination_by structural n => n

def onEntry (place : List Name) : Entry Node → Entry Node
  | ⟨name, checkFails, isBarred, node⟩ =>
    ⟨name, checkFails || F.failing (place ++ [name]), isBarred || F.barred (place ++ [name]),
      onNode (place ++ [name]) node⟩
termination_by structural e => e

def onEntries (place : List Name) : List (Entry Node) → List (Entry Node)
  | [] => []
  | e :: es => onEntry place e :: onEntries place es
termination_by structural es => es

end

/-- A file below a place, by the names that lead to it, is struck by a fault of its own or by one on the way: of a
directory that has to be listed or an entry that has to be checked to come to it. -/
def strikes (place : List Name) : List Name → Bool
  | [] => F.barred place || (F.garbled place).isSome
  | name :: rest => F.unlistable place || (F.failing (place ++ [name]) || strikes (place ++ [name]) rest)

@[simp] theorem onEntry_name (place : List Name) (e : Entry Node) : (F.onEntry place e).name = e.name := by
  cases e
  rfl

@[simp] theorem onEntry_node (place : List Name) (e : Entry Node) :
    (F.onEntry place e).node = F.onNode (place ++ [e.name]) e.node := by
  cases e
  rfl

theorem onEntries_eq_map (place : List Name) (es : List (Entry Node)) :
    F.onEntries place es = es.map (F.onEntry place) := by
  induction es with
  | nil => rfl
  | cons e es ih => rw [onEntries, List.map_cons, ih]

theorem outline_onNode (place : List Name) (n : Node) : (F.onNode place n).outline = n.outline := by
  induction n using Node.tree_induction generalizing place with
  | directory listable es ih =>
    rw [onNode, Node.outline, Node.outline, onEntries_eq_map, Node.outlines_eq_map, Node.outlines_eq_map, List.map_map]
    congr 1
    apply List.map_congr_left
    intro e he
    obtain ⟨name, checkFails, isBarred, node⟩ := e
    have same : (F.onNode (place ++ [name]) node).outline = node.outline := ih _ he _
    rw [Function.comp_apply, onEntry, Node.entryOutline, Node.entryOutline, same]
  | file | link | special => rfl

theorem child?_onNode (place : List Name) (n : Node) (name : Name) :
    (F.onNode place n).child? name = (n.child? name).map (F.onNode (place ++ [name])) := by
  cases n with
  | directory listable es =>
    rw [Node.child?, Node.child?, onNode, Node.entries, Node.entries, onEntries_eq_map, List.find?_map]
    simp only [Function.comp_def, onEntry_name, Option.map_map]
    cases found : es.find? (·.name = name) with
    | none => rfl
    | some e =>
      obtain rfl : e.name = name := by simpa using List.find?_some found
      exact congrArg some (F.onEntry_node place e)
  | file | link | special => rfl

theorem at?_onNode (place : List Name) (n : Node) (names : List Name) :
    (F.onNode place n).at? names = (n.at? names).map (F.onNode (place ++ names)) := by
  induction names generalizing place n with
  | nil =>
    rw [List.append_nil]
    rfl
  | cons name names ih =>
    simp only [Node.at?, List.foldlM_cons, child?_onNode] at ih ⊢
    cases n.child? name with
    | none => rfl
    | some m =>
      have later := ih (place ++ [name]) m
      rw [List.append_assoc] at later
      exact later

end Faults

namespace FileSystem

variable (fs : FileSystem) (F : Faults)

/-- The same files with faults in them. -/
def fault : FileSystem := { fs with tree := F.onNode fs.base fs.tree }

theorem outline_fault : (fs.fault F).outline = fs.outline := by
  rw [outline, outline, fault, F.outline_onNode]

theorem placeOf_fault (t : Name) : (fs.fault F).placeOf t = fs.placeOf t := by
  rw [← placeOf_outline, outline_fault, placeOf_outline]

theorem resolve_fault (p : Path) : (fs.fault F).resolve p = fs.resolve p := by
  rw [← resolve_outline, outline_fault, resolve_outline]

end FileSystem

namespace Source

/-- The names of a candidate at or below an entry go on behind the directory with the name of the entry. -/
theorem drop_names_of_mem_atEntry {directory : Path} {e : Entry Node} {s : Source} (h : s ∈ atEntry directory e) :
    s.candidate.path.names.drop directory.names.length =
      e.name :: s.candidate.path.names.drop (directory.child e.name).names.length := by
  obtain ⟨v, hv, hs⟩ := List.mem_filterMap.1 h
  obtain ⟨bytes, rfl, -⟩ := ofVisit?_eq_some.1 hs
  obtain ⟨rest, names⟩ := (Walk.file_mem_entryVisits.1 hv).through.2
  rw [← names, Path.child, List.drop_left, List.append_assoc, List.drop_left]
  rfl

theorem ofVisit?_barred (path : Path) (bytes : List UInt8) : ofVisit? (.file path false bytes) = none := by
  apply Option.eq_none_iff_forall_ne_some.2
  intro s h
  obtain ⟨_, opened, -⟩ := ofVisit?_eq_some.1 h
  cases opened

theorem ofVisit?_garbage (path : Path) (readable : Bool) (g : Garbage) :
    ofVisit? (.file path readable g.bytes) = none := by
  apply Option.eq_none_iff_forall_ne_some.2
  intro s h
  obtain ⟨bytes, same, -, -, decoded⟩ := ofVisit?_eq_some.1 h
  obtain rfl : g.bytes = bytes := (Visit.file.inj same).2.2
  have none_read := g.unreadable
  rw [decoded] at none_read
  cases none_read

section Struck

variable (F : Faults)

/-- Faults take out what they strike below a directory, if they do at its entries. -/
theorem below_onNode_directory (place : List Name) (root : Path) {es : List (Entry Node)}
    (each : ∀ e ∈ es, atEntry root (F.onEntry place e) = (atEntry root e).filter fun s =>
      !(F.failing (place ++ [e.name]) ||
        F.strikes (place ++ [e.name]) (s.candidate.path.names.drop (root.child e.name).names.length)))
    (listable : Bool) :
    below root (F.onNode place (.directory listable es)) = (below root (.directory listable es)).filter fun s =>
      !F.strikes place (s.candidate.path.names.drop root.names.length) := by
  have struck {e : Entry Node} {s : Source} (hs : s ∈ atEntry root e) :
      F.strikes place (s.candidate.path.names.drop root.names.length) = (F.unlistable place ||
        (F.failing (place ++ [e.name]) ||
          F.strikes (place ++ [e.name]) (s.candidate.path.names.drop (root.child e.name).names.length))) := by
    rw [drop_names_of_mem_atEntry hs, Faults.strikes]
  rw [Faults.onNode, below_directory, below_directory, F.onEntries_eq_map]
  cases listable with
  | false => rfl
  | true =>
    rw [if_pos rfl, List.filter_flatMap]
    -- Below a directory that is made unlistable all is struck; else each entry loses what is struck below it.
    cases shut : F.unlistable place with
    | true =>
      apply Eq.symm
      apply List.flatMap_eq_nil_iff.2
      intro e _
      apply List.filter_eq_nil_iff.2
      intro s hs
      simp [struck hs, shut]
    | false =>
      rw [Bool.not_false, Bool.and_true, if_pos rfl, List.flatMap_map]
      apply List.flatMap_congr
      intro e he
      rw [each e he]
      apply List.filter_congr
      intro s hs
      rw [struck hs, shut, Bool.false_or]

theorem atEntry_onEntry (place : List Name) (directory : Path) (e : Entry Node) :
    atEntry directory (F.onEntry place e) = (atEntry directory e).filter fun s =>
      !(F.failing (place ++ [e.name]) ||
        F.strikes (place ++ [e.name]) (s.candidate.path.names.drop (directory.child e.name).names.length)) := by
  induction e using Entry.walk_induction generalizing place directory with
  | failing name isBarred node =>
    rw [Faults.onEntry, Bool.true_or, atEntry_failing, atEntry_failing]
    rfl
  | file name isBarred bytes =>
    rw [Faults.onEntry, Bool.false_or]
    cases F.failing (place ++ [name]) with
    | true => simp [atEntry_failing]
    | false =>
      have own : ∀ s ∈ (ofVisit? (.file (directory.child name) (!isBarred) bytes)).toList,
          F.strikes (place ++ [name]) (s.candidate.path.names.drop (directory.child name).names.length) =
            (F.barred (place ++ [name]) || (F.garbled (place ++ [name])).isSome) := by
        intro s hs
        obtain ⟨_, same, -⟩ := ofVisit?_eq_some.1 (Option.mem_toList.1 hs)
        rw [← (Visit.file.inj same).1, List.drop_length, Faults.strikes]
      rw [Faults.onNode, atEntry_file, atEntry_file, List.filter_congr fun s hs => by rw [Bool.false_or, own s hs]]
      -- One fault of the file is enough to lose it.
      cases F.barred (place ++ [name]) with
      | true =>
        rw [Bool.or_true, Bool.not_true, ofVisit?_barred, Bool.true_or, Bool.not_true, List.filter_false]
        rfl
      | false =>
        rw [Bool.or_false, Bool.false_or]
        cases F.garbled (place ++ [name]) with
        | some g =>
          rw [Option.map_some, Option.getD_some, ofVisit?_garbage, Option.isSome_some, Bool.not_true, List.filter_false]
          rfl
        | none =>
          rw [Option.isSome_none, Bool.not_false, List.filter_true]
          rfl
  | directory name isBarred listable inner ih =>
    rw [Faults.onEntry, Bool.false_or]
    cases F.failing (place ++ [name]) with
    | true => simp [atEntry_failing]
    | false =>
      have inside := below_onNode_directory F (place ++ [name]) (directory.child name)
        (fun e he => ih e he _ _) listable
      rw [Faults.onNode] at inside ⊢
      rw [atEntry_directory, atEntry_directory]
      split
      · rfl
      · exact inside
  | link | special =>
    rw [Faults.onEntry, Bool.false_or]
    cases F.failing _ <;> rfl

/-- Faults take exactly the candidates that they strike out of those below a root, and leave the others in order. -/
theorem below_onNode (place : List Name) (root : Path) (n : Node) :
    below root (F.onNode place n) = (below root n).filter fun s =>
      !F.strikes place (s.candidate.path.names.drop root.names.length) := by
  cases n with
  | directory listable es => exact below_onNode_directory F place root (fun e _ => atEntry_onEntry F place root e) listable
  | file | link | special => rfl

end Struck

end Source

/-- A report without what it says of some files. -/
def Report.without (r : Report) (struck : Path → Bool) : Report :=
  { r with
    scanned := r.scanned.filter fun c => !struck c.path
    findings := r.findings.filter fun f => !struck f.file }

/-- Whether a file in the report of a scan is struck by faults. Its names go on behind those of the root of the scan. -/
def Faults.hits (F : Faults) (fs : FileSystem) (root p : Path) : Bool :=
  match fs.placeOf root.text with
  | .ok place => F.strikes place (p.names.drop root.names.length)
  | .error _ => false

namespace FileSystem

/-- At a place there is the same as before with the faults in it; above the base there is nothing that they could
strike. -/
theorem at?_fault {fs : FileSystem} {place : List Name} {n : Node} (F : Faults) (h : fs.at? place = some n) :
    ∃ m, (fs.fault F).at? place = some m ∧ ∀ root, Source.below root m = Source.below root (F.onNode place n) := by
  rw [at?] at h ⊢
  cases inside : fs.base.isPrefixOf? place with
  | some names =>
    rw [inside] at h
    have whole : fs.base ++ names = place := List.isPrefixOf?_eq_some_iff_append_eq.1 inside
    refine ⟨F.onNode place n, ?_, fun _ => rfl⟩
    simp only [fault, inside, F.at?_onNode, whole]
    exact congrArg _ h
  | none =>
    rw [inside] at h
    by_cases above : place.isPrefixOf fs.base = true
    · obtain rfl := Option.some.inj ((if_pos above).symm.trans h)
      refine ⟨Node.emptyDirectory, ?_, ?_⟩
      · simp only [fault, inside]
        exact if_pos above
      · intro root
        rw [Source.below_onNode]
        rfl
    · cases (if_neg above).symm.trans h

end FileSystem

namespace Audit

section Fault

variable {fs : FileSystem} {F : Faults} {top : Path} {n m : Node}

theorem rootAt_outline : rootAt fs.outline top = (rootAt fs top).map Node.outline := by
  rw [rootAt, rootAt, FileSystem.stat_outline]
  cases fs.stat top.text with
  | error fault => cases fault <;> rfl
  | ok n => cases n <;> rfl

theorem rootAt_fault_outline : (rootAt (fs.fault F) top).map Node.outline = (rootAt fs top).map Node.outline := by
  rw [← rootAt_outline, FileSystem.outline_fault, rootAt_outline]

theorem rootFor_fault (config : Config) (root : Option Path) :
    rootFor (fs.fault F) config root = rootFor fs config root := by
  cases root with
  | none => rfl
  | some r => rw [rootFor, rootFor, FileSystem.resolve_fault]

/-- Below the root of a scan faults take out what they hit. -/
theorem below_of_rootAt_fault (h : rootAt fs top = .ok n) (hf : rootAt (fs.fault F) top = .ok m) :
    Source.below top m = (Source.below top n).filter fun s => !F.hits fs top s.candidate.path := by
  obtain ⟨_, _, -, hn⟩ := rootAt_directory h
  obtain ⟨_, _, -, hm⟩ := rootAt_directory hf
  obtain ⟨place, hp, hn⟩ := FileSystem.stat_eq_ok.1 hn
  obtain ⟨place', hp', hm⟩ := FileSystem.stat_eq_ok.1 hm
  obtain rfl : place = place' := by
    rw [FileSystem.placeOf_fault] at hp'
    exact Except.ok.inj (hp.symm.trans hp')
  obtain ⟨m', hm', below⟩ := FileSystem.at?_fault F (FileSystem.standingAt_eq_ok.1 hn).1
  obtain rfl : m = m' := Option.some.inj ((FileSystem.standingAt_eq_ok.1 hm).1.symm.trans hm')
  rw [below, Source.below_onNode]
  simp only [Faults.hits, hp]

theorem scanTree_fault (depth : Nat) (w : Watchlist) (stamp : Text) (h : rootAt fs top = .ok n)
    (hf : rootAt (fs.fault F) top = .ok m) :
    (scanTree depth w top (.ok m) stamp).1 = (scanTree depth w top (.ok n) stamp).1.without (F.hits fs top) := by
  have findings : firsts Finding.key ((Source.below top m).flatMap (Source.found depth w)) =
      (firsts Finding.key ((Source.below top n).flatMap (Source.found depth w))).filter
        fun f => !F.hits fs top f.file := by
    rw [below_of_rootAt_fault h hf, Source.flatMap_found_filter]
    -- Of equal findings all are kept or none.
    apply firsts_filter
    intro f g same
    have file : f.file = g.file := congrArg Finding.Key.file same
    rw [file]
  rw [scanTree_eq, scanTree_eq, Finding.distinct_eq_firsts, Finding.distinct_eq_firsts, findings,
    below_of_rootAt_fault h hf, Report.without, Report.ofParts, Report.ofParts, List.filter_map]
  rfl

theorem rootAt_of_fault (h : rootAt (fs.fault F) top = .ok m) : ∃ n, rootAt fs top = .ok n := by
  have outline : (rootAt (fs.fault F) top).map Node.outline = (rootAt fs top).map Node.outline :=
    rootAt_fault_outline
  rw [h] at outline
  cases hn : rootAt fs top with
  | error f =>
    rw [hn] at outline
    cases outline
  | ok n => exact ⟨n, rfl⟩

end Fault

/-- Faults in the tree below a root do not fail a scan: it reports the same but for the files that they hit. -/
theorem scan_faults (F : Faults) (site : Site) (config : Config) (w : Watchlist) (root : Option Path) {top : Path}
    {m : Node} (hroot : rootFor (site.files.fault F) config root = .ok top)
    (hm : rootAt (site.files.fault F) top = .ok m) :
    ∃ r, (scan site config (some w) root).result = .ok r ∧
      (scan { site with files := site.files.fault F } config (some w) root).result =
        .ok (r.without (F.hits site.files top)) := by
  obtain ⟨n, hn⟩ := rootAt_of_fault hm
  have struck : (scanTree site.depth w top (.ok m) site.now.stamp).1 =
      (scanTree site.depth w top (.ok n) site.now.stamp).1.without (F.hits site.files top) :=
    scanTree_fault site.depth w _ hn hm
  refine ⟨(scanTree site.depth w top (.ok n) site.now.stamp).1, ?_, ?_⟩
  · rw [rootFor_fault] at hroot
    exact scan_eq_ok.2 ⟨top, n, w, hroot, hn, rfl, rfl⟩
  · exact scan_eq_ok.2 ⟨top, m, w, hroot, hm, rfl, struck.symm⟩

def lockfileEntry (text : Text) : Entry Node :=
  ⟨FileKind.lockfile.fileName, false, false, .file (Utf8.encode text)⟩

/-- Lockfiles at three depths, all of one text. -/
def lockfiles (text : Text) : FileSystem :=
  let directory (name : String) (es : List (Entry Node)) : Entry Node :=
    ⟨name.toList, false, false, .directory true (es ++ [lockfileEntry text])⟩
  ⟨[], .directory true [directory "api" [directory "old" []], directory "lib" [], directory "web" [directory "kit" []],
    lockfileEntry text], [], .none⟩

/-- One fault of each kind, two of them below directories that stay sound. -/
def fourFaults : Faults where
  unlistable place := place = ["api".toList, "old".toList]
  failing place := place = ["web".toList, "kit".toList]
  barred place := place = [FileKind.lockfile.fileName]
  garbled place := if place = ["lib".toList, FileKind.lockfile.fileName] then some ⟨[255], by decide⟩ else none

theorem scan_faults_lodash :
    let files := lockfiles "lodash@^1:\n  version \"1\"\n".toList
    let left : List (List Name) :=
      [["api".toList, FileKind.lockfile.fileName], ["web".toList, FileKind.lockfile.fileName]]
    let result (fs : FileSystem) :=
      (scan ⟨fs, [], ⟨2025, 1, 2, 3, 4, 5, 0⟩, 1000⟩ topConfig (some (Watchlist.parse "lodash: 1".toList)) none).result
    ∃ r, result files = .ok r ∧ r.scanned.length = 6 ∧ r.findings.length = 6 ∧
      result (files.fault fourFaults) = .ok (r.without (fourFaults.hits files ⟨.root, []⟩)) ∧
      (r.without (fourFaults.hits files ⟨.root, []⟩)).scanned.map (·.path.names) = left := by
  intro files left result
  have counted : (result files).toOption.map (fun r => (r.scanned.length, r.findings.length)) = some (6, 6) := by
    decide +kernel
  have spared : (result (files.fault fourFaults)).toOption.map (fun r => r.scanned.map (·.path.names)) =
      some left := by decide +kernel
  have stands : (rootAt (files.fault fourFaults) ⟨.root, []⟩).toOption.map (fun _ => ()) = some () := by decide +kernel
  obtain ⟨m, hm, -⟩ := exists_of_toOption_map stands
  obtain ⟨r, h, h'⟩ := scan_faults fourFaults ⟨files, [], ⟨2025, 1, 2, 3, 4, 5, 0⟩, 1000⟩ topConfig
    (Watchlist.parse "lodash: 1".toList) none rfl hm
  obtain ⟨_, same, counts⟩ := exists_of_toOption_map counted
  obtain rfl := Except.ok.inj (h.symm.trans same)
  obtain ⟨_, same', names⟩ := exists_of_toOption_map spared
  obtain rfl := Except.ok.inj (h'.symm.trans same')
  obtain ⟨scanned, found⟩ := Prod.mk.inj counts
  exact ⟨_, h, scanned, found, h', names⟩

end Audit

end DependencyAudit
