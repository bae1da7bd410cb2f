import DependencyAudit.Proofs.DepthFirst

namespace DependencyAudit.Walk

mutual

/-- The regular files at a node, which stands at a path under its name, and below it. -/
def nodeFiles (ignored : List Name) (path : Path) (name : Name) : Node → List Path
  | .file _ => [path]
  | .directory listable inner =>
    if ignored.contains name || (refusal? path listable).isSome then [] else entriesFiles ignored path inner
  | .link _ => []
  | .special _ => []
termination_by structural n => n

/-- The regular files at one entry of a directory and below it. -/
def entryFiles (ignored : List Name) (directory : Path) : Entry Node → List Path
  | ⟨name, checkFails, _, node⟩ =>
    if checkFails then [] else nodeFiles ignored (directory.child name) name node
termination_by structural e => e

/-- The regular files below a directory, by plain recursion over its entries. -/
def entriesFiles (ignored : List Name) (directory : Path) : List (Entry Node) → List Path
  | [] => []
  | e :: es => entryFiles ignored directory e ++ entriesFiles ignored directory es
termination_by structural es => es

end

theorem entriesFiles_eq_flatMap (ignored : List Name) (directory : Path) (es : List (Entry Node)) :
    entriesFiles ignored directory es = es.flatMap (entryFiles ignored directory) := by
  induction es with
  | nil => rfl
  | cons e es ih => rw [entriesFiles, List.flatMap_cons, ih]

/-- Of what a walk meets the files are those of the plain recursion. -/
theorem files_entryVisits (ignored : List Name) (directory : Path) (e : Entry Node) :
    files (entryVisits ignored directory e) = entryFiles ignored directory e := by
  induction e using Entry.walk_induction generalizing directory with
  | directory name isBarred listable inner ih =>
    have below : files (entriesVisits ignored (directory.child name) inner) =
        entriesFiles ignored (directory.child name) inner := by
      rw [files_entriesVisits, entriesFiles_eq_flatMap]
      exact List.flatMap_congr fun e he => ih e he (directory.child name)
    rw [entryVisits, if_neg Bool.false_ne_true, nodeVisits, entryFiles, if_neg Bool.false_ne_true, nodeFiles]
    cases known : ignored.contains name with
    | true => rfl
    | false =>
      cases refused : refusal? (directory.child name) listable with
      | none => exact below
      | some fault => rfl
  | failing => rfl
  | file => rfl
  | link => rfl
  | special => rfl

theorem files_visits (ignored : List Name) (root : Path) (listable : Bool) (es : List (Entry Node)) :
    files (visits ignored root (.ok (.directory listable es))) =
      if listable then entriesFiles ignored root es else [] := by
  cases listable with
  | true =>
    rw [visits_directory, files_entriesVisits, if_pos rfl, entriesFiles_eq_flatMap]
    exact List.flatMap_congr fun e _ => files_entryVisits ignored root e
  | false => rfl

/-- The way to a path from a directory begins with a name. -/
def Through (directory : Path) (name : Name) (path : Path) : Prop :=
  (directory.names ++ [name]) <+: path.names

/-- In the directory where the ways to two paths part, the first path takes the earlier entry. -/
inductive Precedes : Path → List (Entry Node) → Path → Path → Prop
  | apart {directory p q : Path} {es : List (Entry Node)} {d e : Entry Node} (order : [d, e].Sublist es)
      (hp : Through directory d.name p) (hq : Through directory e.name q) : Precedes directory es p q
  | inside {directory p q : Path} {es inner : List (Entry Node)} {d : Entry Node} {listable : Bool} (mem : d ∈ es)
      (node : d.node = .directory listable inner) (before : Precedes (directory.child d.name) inner p q) :
      Precedes directory es p q

theorem through_of_mem_entryFiles {ignored : List Name} {directory path : Path} {e : Entry Node}
    (h : path ∈ entryFiles ignored directory e) : Through directory e.name path := by
  rw [← files_entryVisits] at h
  obtain ⟨_, _, lies⟩ := lies_of_mem_files h
  exact lies.through.2

/-- The files below a directory come in the order of the entries that lead to them. -/
theorem pairwise_entriesFiles {ignored : List Name} {directory : Path} {es : List (Entry Node)}
    (each : ∀ e ∈ es, (entryFiles ignored directory e).Pairwise (Precedes directory es)) :
    (entriesFiles ignored directory es).Pairwise (Precedes directory es) := by
  rw [entriesFiles_eq_flatMap, List.pairwise_flatMap]
  refine ⟨each, ?_⟩
  rw [List.pairwise_iff_forall_sublist]
  intro d e order p hp q hq
  exact .apart order (through_of_mem_entryFiles hp) (through_of_mem_entryFiles hq)

theorem pairwise_entryFiles {ignored : List Name} {directory : Path} {es : List (Entry Node)} {e : Entry Node}
    (mem : e ∈ es) : (entryFiles ignored directory e).Pairwise (Precedes directory es) := by
  induction e using Entry.walk_induction generalizing directory es with
  | directory name isBarred listable inner ih =>
    have below : (entriesFiles ignored (directory.child name) inner).Pairwise
        (Precedes (directory.child name) inner) := pairwise_entriesFiles fun e he => ih e he he
    rw [entryFiles, if_neg Bool.false_ne_true, nodeFiles]
    split
    · exact List.Pairwise.nil
    · exact below.imp fun before => .inside mem rfl before
  | file => exact List.pairwise_singleton _ _
  | failing => exact List.Pairwise.nil
  | link => exact List.Pairwise.nil
  | special => exact List.Pairwise.nil

theorem Through.name_eq {directory path : Path} {m n : Name} (hm : Through directory m path)
    (hn : Through directory n path) : m = n := by
  obtain ⟨s, hs⟩ := hm
  obtain ⟨t, ht⟩ := hn
  rw [← ht, List.append_assoc, List.append_assoc] at hs
  exact (List.cons.inj (List.append_cancel_left hs)).1

theorem Through.of_child {directory path : Path} {m n : Name} (h : Through (directory.child m) n path) :
    Through directory m path :=
  (List.prefix_append (directory.names ++ [m]) [n]).trans h

/-- Both of two paths in order lead through entries of the directory, the second not through an earlier one. -/
theorem Precedes.through {directory p q : Path} {es : List (Entry Node)} (h : Precedes directory es p q) :
    ∃ d e, ([d, e].Sublist es ∨ d = e ∧ d ∈ es) ∧ Through directory d.name p ∧ Through directory e.name q := by
  induction h with
  | @apart _ _ _ _ d e order hp hq => exact ⟨d, e, .inl order, hp, hq⟩
  | @inside _ _ _ _ _ d _ mem _ _ ih =>
    obtain ⟨_, _, _, hp, hq⟩ := ih
    exact ⟨d, d, .inr ⟨rfl, mem⟩, hp.of_child, hq.of_child⟩

theorem name_ne_of_sublist {es : List (Entry Node)} (names : (es.map (·.name)).Nodup) {d e : Entry Node}
    (order : [d, e].Sublist es) : d.name ≠ e.name := by
  rw [List.nodup_iff_pairwise_ne, List.pairwise_map] at names
  exact List.pairwise_iff_forall_sublist.1 names order

/-- Entries of different names are not in both orders. -/
theorem not_sublist_of_sublist {es : List (Entry Node)} (names : (es.map (·.name)).Nodup) {d e d' e' : Entry Node}
    (order : [d, e].Sublist es) (hd : d'.name = d.name) (he : e'.name = e.name) : ¬ [e', d'].Sublist es := by
  intro back
  induction es with
  | nil => cases order
  | cons a es ih =>
    rw [List.map_cons, List.nodup_cons] at names
    obtain ⟨fresh, names⟩ := names
    have known {b : Entry Node} (hb : b ∈ es) : b.name ≠ a.name := fun same => fresh (same ▸ List.mem_map_of_mem hb)
    cases order with
    | cons _ order =>
      cases back with
      | cons _ back => exact ih names order back
      | cons_cons _ back => exact known (order.subset (by simp)) he.symm
    | cons_cons _ order =>
      have later : e ∈ es := order.subset (by simp)
      cases back with
      | cons _ back => exact known (back.subset (by simp)) hd
      | cons_cons _ back => exact known later he.symm

/-- Where the names of every directory are distinct, two paths are in order in one way only. -/
theorem Precedes.asymm {directory p q : Path} {listable : Bool} {es : List (Entry Node)}
    (distinct : (Node.directory listable es).NamesDistinct) (h : Precedes directory es p q) :
    ¬ Precedes directory es q p := by
  induction h generalizing listable with
  | @apart directory p q es d e order hp hq =>
    intro back
    cases distinct with
    | directory names _ =>
      obtain ⟨e', d', place, hq', hp'⟩ := back.through
      have hd := hp'.name_eq hp
      have he := hq'.name_eq hq
      rcases place with back | ⟨rfl, _⟩
      · exact not_sublist_of_sublist names order hd he back
      · exact name_ne_of_sublist names order (hd.symm.trans he)
  | @inside directory p q es inner d _ mem node before ih =>
    intro back
    cases distinct with
    | directory names each =>
      obtain ⟨_, _, _, hp, hq⟩ := before.through
      cases back with
      | @apart _ _ _ _ e' d' order hq' hp' =>
        have he := hq'.name_eq hq.of_child
        have hd := hp'.name_eq hp.of_child
        exact name_ne_of_sublist names order (he.trans hd.symm)
      | @inside _ _ _ _ inner' d' _ mem' node' back =>
        obtain ⟨_, _, _, hq', _⟩ := back.through
        have same : d' = d := List.inj_on_of_nodup_map names mem' mem (hq'.of_child.name_eq hq.of_child)
        subst same
        obtain ⟨-, rfl⟩ := Node.directory.inj (node'.symm.trans node)
        exact ih (node ▸ each d' mem) back

/-- A walk with a stack lists what the plain recursion lists: exactly the regular files that can be come to, each once,
and in the order of the entries that lead to them, so that a directory is finished before the next entry beside it. -/
theorem files_listed (ignored : List Name) (root : Path) {listable : Bool} {es : List (Entry Node)}
    (distinct : (Node.directory listable es).NamesDistinct) :
    let listed := files (visits ignored root (.ok (.directory listable es)))
    listed = (if listable then entriesFiles ignored root es else []) ∧
      (∀ p, p ∈ listed ↔ listable = true ∧ ∃ e ∈ es, ∃ readable bytes, Lies ignored root e p readable bytes) ∧
      listed.Nodup ∧ listed.Pairwise (Precedes root es) ∧
      ∀ p q, Precedes root es p q → ¬ Precedes root es q p := by
  intro listed
  have eq : listed = if listable then entriesFiles ignored root es else [] := files_visits ignored root listable es
  refine ⟨eq, ?_, ?_, ?_, fun p q => Precedes.asymm distinct⟩
  · intro p
    rw [eq]
    cases listable with
    | false => simp
    | true =>
      simp only [if_true, true_and, entriesFiles_eq_flatMap, List.mem_flatMap, ← files_entryVisits]
      constructor
      · rintro ⟨e, he, hp⟩
        exact ⟨e, he, lies_of_mem_files hp⟩
      · rintro ⟨e, he, readable, bytes, lies⟩
        exact ⟨e, he, List.mem_filterMap.2 ⟨_, file_mem_entryVisits.2 lies, rfl⟩⟩
  · rw [eq]
    cases distinct with
    | directory names each =>
      have nodup : (files (entriesVisits ignored root es)).Nodup :=
        nodup_files_entriesVisits names fun e he => nodup_files_entryVisits (each e he) root
      simp only [files_entriesVisits, files_entryVisits, ← entriesFiles_eq_flatMap] at nodup
      split
      · exact nodup
      · exact List.nodup_nil
  · rw [eq]
    split
    · exact pairwise_entriesFiles fun e he => pairwise_entryFiles he
    · exact List.Pairwise.nil

/-- A project with a directory before a file, and with settings of version control between them. -/
def projectEntries : List (Entry Node) :=
  [⟨"app".toList, false, false, .directory true [⟨FileKind.lockfile.fileName, false, false, .file []⟩]⟩,
    ⟨".git".toList, false, false, .directory true [⟨"config".toList, false, false, .file []⟩]⟩,
    ⟨FileKind.manifest.fileName, false, true, .file []⟩]

theorem namesDistinct_project : (Node.directory true projectEntries).NamesDistinct := by
  have alone (name : Name) : (Node.directory true [⟨name, false, false, .file []⟩]).NamesDistinct := by
    refine .directory (List.nodup_singleton _) ?_
    intro e he
    obtain rfl := List.mem_singleton.1 he
    exact .file
  refine .directory (by decide) ?_
  simp only [projectEntries, List.forall_mem_cons]
  exact ⟨alone _, alone _, .file, fun e he => absurd he List.not_mem_nil⟩

theorem files_listed_project :
    let root : Path := ⟨.root, ["p".toList]⟩
    let listed := files (visits ignoredNames root (.ok (.directory true projectEntries)))
    (Node.directory true projectEntries).NamesDistinct ∧
      listed = [(root.child "app".toList).child FileKind.lockfile.fileName, root.child FileKind.manifest.fileName] ∧
      listed = entriesFiles ignoredNames root projectEntries ∧ listed.Pairwise (Precedes root projectEntries) := by
  intro root listed
  obtain ⟨plain, _, _, order, _⟩ := files_listed ignoredNames root namesDistinct_project
  exact ⟨namesDistinct_project, by decide +kernel, plain, order⟩

end DependencyAudit.Walk
