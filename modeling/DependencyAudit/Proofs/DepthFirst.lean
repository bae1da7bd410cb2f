import DependencyAudit.Proofs.Tree

namespace DependencyAudit

/-- Induction over the entries that a walk takes up; at a directory the claim is at hand for its entries. -/
@[elab_as_elim]
theorem Entry.walk_induction {P : Entry Node → Prop}
    (failing : ∀ name isBarred node, P ⟨name, true, isBarred, node⟩)
    (file : ∀ name isBarred bytes, P ⟨name, false, isBarred, .file bytes⟩)
    (directory : ∀ name isBarred listable inner, (∀ e ∈ inner, P e) →
      P ⟨name, false, isBarred, .directory listable inner⟩)
    (link : ∀ name isBarred target, P ⟨name, false, isBarred, .link target⟩)
    (special : ∀ name isBarred content, P ⟨name, false, isBarred, .special content⟩) (e : Entry Node) : P e := by
  obtain ⟨name, checkFails, isBarred, node⟩ := e
  induction node using Node.tree_induction generalizing name checkFails isBarred with
  | file bytes =>
    cases checkFails with
    | true => exact failing ..
    | false => exact file ..
  | directory listable inner ih =>
    cases checkFails with
    | true => exact failing ..
    | false => exact directory _ _ _ _ fun e he => ih e he ..
  | link target =>
    cases checkFails with
    | true => exact failing ..
    | false => exact link ..
  | special content =>
    cases checkFails with
    | true => exact failing ..
    | false => exact special ..

namespace Walk

mutual

/-- What a walk meets at a node, which stands at a path under its name, and below it. -/
def nodeVisits (ignored : List Name) (path : Path) (name : Name) (isBarred : Bool) : Node → List Visit
  | .file bytes => [.file path (!isBarred) bytes]
  | .directory listable inner =>
    if ignored.contains name then []
    else
      match refusal? path listable with
      | none => entriesVisits ignored path inner
      | some fault => [.skippedDirectory path fault]
  | .link _ => []
  | .special _ => []
termination_by structural n => n

/-- What a walk meets at one entry of a directory, everything below it included. -/
def entryVisits (ignored : List Name) (directory : Path) : Entry Node → List Visit
  | ⟨name, checkFails, isBarred, node⟩ =>
    if checkFails then [.skippedEntry (directory.child name) .inputOutput]
    else nodeVisits ignored (directory.child name) name isBarred node
termination_by structural e => e

/-- What a walk meets below a directory: one entry after the other, each with all that is below it. -/
def entriesVisits (ignored : List Name) (directory : Path) : List (Entry Node) → List Visit
  | [] => []
  | e :: es => entryVisits ignored directory e ++ entriesVisits ignored directory es
termination_by structural es => es

end

theorem entriesVisits_eq_flatMap (ignored : List Name) (directory : Path) (es : List (Entry Node)) :
    entriesVisits ignored directory es = es.flatMap (entryVisits ignored directory) := by
  induction es with
  | nil => rfl
  | cons e es ih => rw [entriesVisits, List.flatMap_cons, ih]

/-- The stack of a walk holds what is still to be met, the innermost directory first. -/
theorem run_eq_flatMap (ignored : List Name) (stack : List Frame) :
    run ignored stack = stack.flatMap fun f => entriesVisits ignored f.directory f.entries := by
  fun_induction run ignored stack with
  | case1 => rfl
  | case2 directory stack ih => exact ih
  | case3 directory name isBarred node es stack path ih =>
    rw [ih]
    rfl
  | case4 directory name checkFails isBarred es stack path checked bytes ih =>
    obtain rfl := Bool.eq_false_iff.2 checked
    rw [ih]
    rfl
  | case5 directory name checkFails isBarred es stack checked listable inner known ih =>
    obtain rfl := Bool.eq_false_iff.2 checked
    rw [ih]
    simp only [List.flatMap_cons, entriesVisits, entryVisits, nodeVisits, if_pos known]
    rfl
  | case6 directory name checkFails isBarred es stack path checked listable inner new listed ih =>
    obtain rfl := Bool.eq_false_iff.2 checked
    have listed : refusal? (directory.child name) listable = none := listed
    rw [ih]
    simp only [List.flatMap_cons, entriesVisits, entryVisits, nodeVisits, if_neg new, listed, List.append_assoc]
    rfl
  | case7 directory name checkFails isBarred es stack path checked listable inner new fault refused ih =>
    obtain rfl := Bool.eq_false_iff.2 checked
    have refused : refusal? (directory.child name) listable = some fault := refused
    rw [ih]
    simp only [List.flatMap_cons, entriesVisits, entryVisits, nodeVisits, if_neg new, refused]
    rfl
  | case8 directory name checkFails isBarred es stack checked target ih =>
    obtain rfl := Bool.eq_false_iff.2 checked
    exact ih
  | case9 directory name checkFails isBarred es stack checked content ih =>
    obtain rfl := Bool.eq_false_iff.2 checked
    exact ih

theorem visits_directory (ignored : List Name) (root : Path) (es : List (Entry Node)) :
    visits ignored root (.ok (.directory true es)) = entriesVisits ignored root es := by
  rw [visits, run_eq_flatMap, List.flatMap_singleton]

/-- A regular file that a walk comes to at an entry of a directory or below it: the checks of all entries on the way
succeed, and every directory on the way is listed and not ignored. -/
inductive Lies (ignored : List Name) : Path → Entry Node → Path → Bool → List UInt8 → Prop
  | here {directory : Path} {name : Name} {isBarred : Bool} {bytes : List UInt8} :
    Lies ignored directory ⟨name, false, isBarred, .file bytes⟩ (directory.child name) (!isBarred) bytes
  | inside {directory path : Path} {name : Name} {isBarred listable readable : Bool} {inner : List (Entry Node)}
      {e : Entry Node} {bytes : List UInt8} (kept : name ∉ ignored)
      (listed : refusal? (directory.child name) listable = none) (mem : e ∈ inner)
      (lies : Lies ignored (directory.child name) e path readable bytes) :
    Lies ignored directory ⟨name, false, isBarred, .directory listable inner⟩ path readable bytes

theorem mem_directoryVisits {ignored : List Name} {path : Path} {name : Name} (isBarred : Bool) {listable : Bool}
    {inner : List (Entry Node)} {v : Visit} (h : v.path?.isSome) :
    v ∈ nodeVisits ignored path name isBarred (.directory listable inner) ↔
      name ∉ ignored ∧ refusal? path listable = none ∧ ∃ e ∈ inner, v ∈ entryVisits ignored path e := by
  rw [nodeVisits]
  by_cases known : name ∈ ignored
  · simp [known]
  · rw [if_neg (by simpa using known)]
    cases refused : refusal? path listable with
    | none => simp [known, entriesVisits_eq_flatMap]
    | some fault =>
      have other : v ≠ .skippedDirectory path fault := by
        rintro rfl
        cases h
      simp [other]

/-- A walk meets exactly the regular files that it can come to. -/
theorem file_mem_entryVisits {ignored : List Name} {directory path : Path} {e : Entry Node} {readable : Bool}
    {bytes : List UInt8} :
    Visit.file path readable bytes ∈ entryVisits ignored directory e ↔
      Lies ignored directory e path readable bytes := by
  induction e using Entry.walk_induction generalizing directory with
  | failing name isBarred node =>
    constructor
    · intro h
      cases List.mem_singleton.1 h
    · intro h
      cases h
  | file name isBarred content =>
    constructor
    · intro h
      cases List.mem_singleton.1 h
      exact .here
    · intro h
      cases h
      exact List.mem_singleton_self _
  | directory name isBarred listable inner ih =>
    constructor
    · intro h
      obtain ⟨kept, listed, e, he, hv⟩ := (mem_directoryVisits isBarred rfl).1 h
      exact .inside kept listed he ((ih e he).1 hv)
    · intro h
      cases h with
      | inside kept listed he lies => exact (mem_directoryVisits isBarred rfl).2 ⟨kept, listed, _, he, (ih _ he).2 lies⟩
  | link name isBarred target =>
    constructor
    · intro h
      exact absurd h List.not_mem_nil
    · intro h
      cases h
  | special name isBarred content =>
    constructor
    · intro h
      exact absurd h List.not_mem_nil
    · intro h
      cases h

/-- The path of a file below an entry goes through the entry. -/
theorem Lies.through {ignored : List Name} {directory path : Path} {e : Entry Node} {readable : Bool}
    {bytes : List UInt8} (h : Lies ignored directory e path readable bytes) :
    path.anchor = directory.anchor ∧ (directory.names ++ [e.name]) <+: path.names := by
  induction h with
  | here => exact ⟨rfl, List.prefix_rfl⟩
  | inside _ _ _ _ ih =>
    obtain ⟨anchor, names⟩ := ih
    exact ⟨anchor, (List.prefix_append ..).trans names⟩

theorem lies_of_mem_files {ignored : List Name} {directory path : Path} {e : Entry Node}
    (h : path ∈ files (entryVisits ignored directory e)) :
    ∃ readable bytes, Lies ignored directory e path readable bytes := by
  obtain ⟨v, hv, hp⟩ := List.mem_filterMap.1 h
  cases v with
  | file p readable bytes =>
    obtain rfl := Option.some.inj hp
    exact ⟨readable, bytes, file_mem_entryVisits.1 hv⟩
  | skippedDirectory => cases hp
  | skippedEntry => cases hp

/-- Files below entries of different names have different paths. -/
theorem path_ne_of_name_ne {ignored : List Name} {directory : Path} {d e : Entry Node} (h : d.name ≠ e.name)
    {p q : Path} (hp : p ∈ files (entryVisits ignored directory d))
    (hq : q ∈ files (entryVisits ignored directory e)) : p ≠ q := by
  rintro rfl
  obtain ⟨_, _, hd⟩ := lies_of_mem_files hp
  obtain ⟨_, _, he⟩ := lies_of_mem_files hq
  obtain ⟨s, hs⟩ := hd.through.2
  obtain ⟨t, ht⟩ := he.through.2
  rw [← ht, List.append_assoc, List.append_assoc] at hs
  have tails := List.append_cancel_left hs
  exact h (List.cons.inj tails).1

theorem files_entriesVisits (ignored : List Name) (directory : Path) (es : List (Entry Node)) :
    files (entriesVisits ignored directory es) = es.flatMap fun e => files (entryVisits ignored directory e) := by
  rw [entriesVisits_eq_flatMap, files, List.filterMap_flatMap]
  rfl

theorem nodup_files_entriesVisits {ignored : List Name} {directory : Path} {es : List (Entry Node)}
    (names : (es.map (·.name)).Nodup) (each : ∀ e ∈ es, (files (entryVisits ignored directory e)).Nodup) :
    (files (entriesVisits ignored directory es)).Nodup := by
  rw [files_entriesVisits, List.nodup_flatMap]
  refine ⟨each, ?_⟩
  rw [List.nodup_iff_pairwise_ne, List.pairwise_map] at names
  apply names.imp
  intro d e hne p hp hq
  exact path_ne_of_name_ne hne hp hq rfl

/-- Where the names of every directory are distinct, no file is met twice. -/
theorem nodup_files_entryVisits {ignored : List Name} {e : Entry Node} (h : e.node.NamesDistinct)
    (directory : Path) : (files (entryVisits ignored directory e)).Nodup := by
  induction e using Entry.walk_induction generalizing directory with
  | directory name isBarred listable inner ih =>
    cases h with
    | directory names distinct =>
      have below : (files (entriesVisits ignored (directory.child name) inner)).Nodup :=
        nodup_files_entriesVisits names fun e he => ih e he (distinct e he) (directory.child name)
      rw [entryVisits, if_neg Bool.false_ne_true, nodeVisits]
      split
      · exact List.nodup_nil
      · split
        · exact below
        · exact List.nodup_nil
  | file => exact List.nodup_singleton _
  | failing => exact List.nodup_nil
  | link => exact List.nodup_nil
  | special => exact List.nodup_nil

end Walk

end DependencyAudit
