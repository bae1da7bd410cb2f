import DependencyAudit.Proofs.Reordering
import DependencyAudit.Proofs.Resolving
import DependencyAudit.Proofs.Verdict

namespace DependencyAudit

/-- The names of all entries in a tree can be components of paths. -/
inductive Node.IsNamed : Node → Prop
  | of_entries {n : Node} (names : ∀ e ∈ n.entries, Path.IsName e.name) (inner : ∀ e ∈ n.entries, e.node.IsNamed) :
    IsNamed n

/-- The names in a file system and on the way to its working directory can be components of paths. -/
structure FileSystem.IsNamed (fs : FileSystem) : Prop where
  tree : fs.tree.IsNamed
  here : ∀ n ∈ fs.here, Path.IsName n

namespace Node

theorem IsNamed.of_childless {n : Node} (h : n.entries = []) : n.IsNamed := by
  constructor <;> simp [h]

theorem IsNamed.child {n m : Node} {name : Name} (h : n.IsNamed) (hc : n.child? name = some m) : m.IsNamed := by
  obtain ⟨e, found, rfl⟩ := Option.map_eq_some_iff.1 hc
  obtain ⟨-, inner⟩ := h
  exact inner e (List.mem_of_find?_eq_some found)

end Node

/-- A walk goes from a directory to a file below it by the names of entries. -/
theorem Walk.Lies.isBelow {ignored : List Name} {directory path : Path} {e : Entry Node} {readable : Bool}
    {bytes : List UInt8} (h : Lies ignored directory e path readable bytes) (name : Path.IsName e.name)
    (inner : e.node.IsNamed) : path.IsBelow directory := by
  induction h with
  | here => exact Path.isBelow_child name
  | inside _ _ mem _ ih =>
    obtain ⟨names, inner⟩ := inner
    exact (ih (names _ mem) (inner _ mem)).of_child name

theorem Source.isBelow_of_mem_below {root : Path} {n : Node} {s : Source} (named : n.IsNamed) (h : s ∈ below root n) :
    s.candidate.path.IsBelow root := by
  obtain ⟨es, e, bytes, rfl, mem, lies, -⟩ := mem_below.1 h
  obtain ⟨names, inner⟩ := named
  exact lies.isBelow (names e mem) (inner e mem)

/-- An entry of a report that tells where a file is: one text in it spells the path of the file, another leads to the
file from the root and ends in the file's name. -/
structure Json.Places (entry : Json) (root file : Path) (whole below : String) : Prop where
  whole : ∃ t, entry.member? whole.toList = some (.string t) ∧ Path.ofText t = file
  below : ∃ t, entry.member? below.toList = some (.string t) ∧ root.join (Path.ofText t) = file ∧
    file.name <:+ t ∧ (Path.ofText t).name = file.name

/-- Where the root of a report and its files are can be told from the texts in it. No two files have one relative path,
and each relative path ends in the type of its file. -/
structure Report.JoinsBack (r : Report) : Prop where
  root : ∃ t, r.meta? "root".toList = some (.string t) ∧ Path.ofText t = r.root
  files : r.toJson.member? "scannedFiles".toList = some (.array (r.scanned.map (·.toJson r.root)))
  scanned : ∀ c ∈ r.scanned, (c.toJson r.root).Places r.root c.path "path" "relative"
  typed : ∀ c ∈ r.scanned, (c.toJson r.root).member? "type".toList = some (.string c.path.name)
  apart : ∀ c ∈ r.scanned, ∀ d ∈ r.scanned, c.path ≠ d.path →
    (c.toJson r.root).member? "relative".toList ≠ (d.toJson r.root).member? "relative".toList
  finds : r.toJson.member? "vulnerabilities".toList = some (.array (r.findings.map (·.toJson (some r.root))))
  findings : ∀ f ∈ r.findings, (f.toJson (some r.root)).Places r.root f.file "file" "fileRelative"

theorem Json.places_of_isBelow {entry : Json} {root file : Path} {whole below : String} (hr : root.IsNormal)
    (h : file.IsBelow root) (spelled : entry.member? whole.toList = some (.string file.text))
    (led : entry.member? below.toList = some (.string (file.relativeText (some root)))) :
    entry.Places root file whole below where
  whole := ⟨_, spelled, Path.ofText_text (h.isNormal hr)⟩
  below := ⟨_, led, h.relativeText⟩

theorem Report.joinsBack_of_isBelow {r : Report} (hr : r.root.IsNormal)
    (scanned : ∀ c ∈ r.scanned, c.path.IsBelow r.root) (findings : ∀ f ∈ r.findings, f.file.IsBelow r.root) :
    r.JoinsBack where
  root := ⟨_, rfl, Path.ofText_text hr⟩
  files := rfl
  scanned c hc := Json.places_of_isBelow hr (scanned c hc) rfl rfl
  typed _ _ := rfl
  apart := by
    intro c hc d hd
    apply mt
    intro same
    have same : c.path.relativeText (some r.root) = d.path.relativeText (some r.root) :=
      Json.string.inj (Option.some.inj same)
    rw [← (scanned c hc).relativeText.1, ← (scanned d hd).relativeText.1, same]
  finds := rfl
  findings f hf := Json.places_of_isBelow hr (findings f hf) rfl rfl

namespace Audit

variable {site : Site} {config : Config} {given : Option Watchlist} {root : Option Path} {r : Report}

theorem isNormal_of_rootFor {fs : FileSystem} {place : Path} (here : ∀ n ∈ fs.here, Path.IsName n)
    (configured : config.root.IsNormal) (asked : ∀ p ∈ root, p.IsNormal) (h : rootFor fs config root = .ok place) :
    place.IsNormal := by
  cases root with
  | none =>
    obtain rfl := Except.ok.inj h
    exact configured
  | some p =>
    have solid : FileSystem.Solid p.names := fun n hn => (asked p rfl n hn).solid
    rw [rootFor] at h
    cases resolved : fs.resolve p with
    | error e =>
      rw [resolved] at h
      cases h
    | ok q =>
      rw [resolved] at h
      obtain rfl := Except.ok.inj h
      exact FileSystem.isNormal_of_resolve (fun n hn => (here n hn).solid) solid resolved

theorem joinsBack_scanTree (depth : Nat) (w : Watchlist) {place : Path} {n : Node} (normal : place.IsNormal)
    (named : n.IsNamed)
    (stamp : Text) : (scanTree depth w place (.ok n) stamp).1.JoinsBack := by
  rw [scanTree_eq]
  apply Report.joinsBack_of_isBelow normal
  · intro c hc
    obtain ⟨s, hs, rfl⟩ := List.mem_map.1 hc
    exact Source.isBelow_of_mem_below named hs
  · intro f hf
    obtain ⟨s, hs, -, file⟩ := Source.exists_of_mem_distinct hf
    rw [file]
    exact Source.isBelow_of_mem_below named hs

theorem scan_joinsBack (files : site.files.IsNamed) (configured : config.root.IsNormal)
    (asked : ∀ p ∈ root, p.IsNormal) (h : (scan site config given root).result = .ok r) : r.JoinsBack := by
  obtain ⟨place, n, w, hplace, hn, -, rfl⟩ := scan_eq_ok.1 h
  have normal := isNormal_of_rootFor files.here configured asked hplace
  have named : n.IsNamed := of_rootAt Node.IsNamed.child (.of_childless rfl) files.tree hn
  exact joinsBack_scanTree site.depth w normal named site.now.stamp

/-- Seen from a directory, a path that does not lie there is told by its whole text, and any other by the text of a
relative path that leads to it again; what is joined to a directory is told by what was joined. So the files in a report
are had from its root by their relative texts. -/
theorem relative_joins_back :
    (∀ (t : Name) (d : Path), ¬ (Path.ofText t).IsWithin d →
      (Path.ofText t).relativeText (some d) = (Path.ofText t).text) ∧
    (∀ (t : Name) (d : Path), (Path.ofText t).IsWithin d →
      ∃ q : Path, q.anchor = .relative ∧ (Path.ofText t).relativeText (some d) = q.text ∧ Path.ofText q.text = q ∧
        d.join q = Path.ofText t) ∧
    (∀ d q : Path, q.anchor = .relative → (d.join q).relativeText (some d) = q.text) ∧
    ∀ (site : Site) (config : Config) (given : Option Watchlist) (root : Option Path) (r : Report),
      site.files.IsNamed → config.root.IsNormal → (∀ p ∈ root, p.IsNormal) →
      (scan site config given root).result = .ok r → r.JoinsBack := by
  have normal (t : Name) : (Path.ofText t).IsNormal := Path.isNormal_iff.2 ⟨t, rfl⟩
  refine ⟨?_, ?_, ?_, ?_⟩
  · intro t d apart
    exact Path.relativeText_of_not_isWithin (normal t) apart
  · intro t d within
    exact Path.relativeText_of_isWithin (normal t) within
  · intro d q relative
    exact Path.relativeText_join d relative
  · intro site config given root r files configured asked h
    exact scan_joinsBack files configured asked h

theorem isNamed_nestedLockfiles (text : Text) : (nestedLockfiles text).IsNamed where
  tree := by
    have lockfile : Path.IsName FileKind.lockfile.fileName := by decide
    have file : (lockfileEntry text).node.IsNamed := .of_childless rfl
    have alone : (Node.directory true [lockfileEntry text]).IsNamed :=
      ⟨List.forall_mem_singleton.2 lockfile, List.forall_mem_singleton.2 file⟩
    have beside {name : Name} {n : Node} (hn : Path.IsName name) (h : n.IsNamed) :
        (Node.directory true [⟨name, false, false, n⟩, lockfileEntry text]).IsNamed :=
      ⟨List.forall_mem_cons.2 ⟨hn, List.forall_mem_singleton.2 lockfile⟩,
        List.forall_mem_cons.2 ⟨h, List.forall_mem_singleton.2 file⟩⟩
    exact beside (by decide) (beside (by decide) alone)
  here := fun _ hn => absurd hn List.not_mem_nil

/-- A scan of a directory below the top. Another directory, whose name goes on where the name of this one ends, is not in
it. -/
theorem relative_joins_back_lodash :
    let site : Site := ⟨nestedLockfiles "lodash@^1:\n  version \"1\"\n".toList, [], ⟨2025, 1, 2, 3, 4, 5, 0⟩, 1000⟩
    let root := Path.ofText "./api/".toList
    let aside := Path.ofText "/apiary/yarn.lock".toList
    let below : List Name := ["old/yarn.lock".toList, "yarn.lock".toList]
    site.files.IsNamed ∧ root.IsNormal ∧
    ∃ r, (scan site topConfig (some (Watchlist.parse "lodash: 1".toList)) (some root)).result = .ok r ∧
      r.root = Path.ofText "/api".toList ∧ r.JoinsBack ∧
      r.findings.map (·.file.relativeText (some r.root)) = below ∧
      ¬ aside.IsWithin r.root ∧ aside.relativeText (some r.root) = "/apiary/yarn.lock".toList := by
  intro site root aside below
  have evaluated : (scan site topConfig (some (Watchlist.parse "lodash: 1".toList)) (some root)).result.toOption.map
      (fun r => (r.root, r.findings.map (·.file.relativeText (some r.root)))) =
        some (Path.ofText "/api".toList, below) := by decide +kernel
  have named : site.files.IsNamed := isNamed_nestedLockfiles _
  have normal : root.IsNormal := Path.isNormal_iff.2 ⟨_, rfl⟩
  have outside : ¬ aside.IsWithin (Path.ofText "/api".toList) := by
    rintro ⟨starts, -⟩
    exact absurd starts (by decide)
  obtain ⟨r, h, told⟩ := exists_of_toOption_map evaluated
  obtain ⟨place, relative⟩ := Prod.mk.inj told
  obtain ⟨apart, -, -, reports⟩ := relative_joins_back
  have top : topConfig.root.IsNormal := fun _ hn => absurd hn List.not_mem_nil
  have asked : ∀ p ∈ some root, p.IsNormal := by
    intro p hp
    obtain rfl := Option.some.inj hp
    exact normal
  have joined := reports site topConfig _ (some root) r named top asked h
  refine ⟨named, normal, r, h, place, joined, relative, ?_, ?_⟩
  · rw [place]
    exact outside
  · rw [place]
    exact apart _ _ outside

end Audit

end DependencyAudit
