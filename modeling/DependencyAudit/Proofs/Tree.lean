import DependencyAudit.Audit
import Mathlib.Data.List.Nodup

namespace DependencyAudit

namespace Node

/-- Induction over a tree; at a directory the claim is at hand for what each entry stands for. -/
@[elab_as_elim]
theorem tree_induction {P : Node → Prop} (file : ∀ bytes, P (.file bytes))
    (directory : ∀ listable es, (∀ e ∈ es, P e.node) → P (.directory listable es))
    (link : ∀ target, P (.link target)) (special : ∀ content, P (.special content)) (n : Node) : P n := by
  -- A list of entries and an entry have the claim for the nodes in them.
  refine @Node.rec P (fun es => ∀ e ∈ es, P e.node) (fun e => P e.node) file directory link special ?_ ?_ ?_ n
  · intro e he
    exact absurd he List.not_mem_nil
  · intro e es he hes d hd
    rcases List.mem_cons.1 hd with rfl | hd
    · exact he
    · exact hes d hd
  · intro _ _ _ _ h
    exact h

/-- No directory of a tree has two entries of one name. -/
inductive NamesDistinct : Node → Prop
  | file {bytes : List UInt8} : NamesDistinct (.file bytes)
  | directory {listable : Bool} {es : List (Entry Node)} (nodup : (es.map (·.name)).Nodup)
      (inner : ∀ e ∈ es, e.node.NamesDistinct) : NamesDistinct (.directory listable es)
  | link {target : Name} : NamesDistinct (.link target)
  | special {content : List UInt8} : NamesDistinct (.special content)

theorem NamesDistinct.emptyDirectory : emptyDirectory.NamesDistinct :=
  .directory List.nodup_nil fun _ he => absurd he List.not_mem_nil

theorem NamesDistinct.child {n m : Node} {name : Name} (h : n.NamesDistinct) (hc : n.child? name = some m) :
    m.NamesDistinct := by
  rw [child?] at hc
  obtain ⟨e, he, rfl⟩ := Option.map_eq_some_iff.1 hc
  have mem := List.mem_of_find?_eq_some he
  cases h with
  | directory _ inner => exact inner e mem
  | file => exact absurd mem List.not_mem_nil
  | link => exact absurd mem List.not_mem_nil
  | special => exact absurd mem List.not_mem_nil

theorem NamesDistinct.child?_of_mem {listable : Bool} {es : List (Entry Node)} {e : Entry Node}
    (h : (Node.directory listable es).NamesDistinct) (he : e ∈ es) :
    (Node.directory listable es).child? e.name = some e.node := by
  cases h with
  | directory nodup _ =>
    rw [child?, entries]
    cases found : es.find? (·.name = e.name) with
    | none => exact absurd (List.find?_eq_none.1 found e he) (by simp)
    | some d =>
      have same : d.name = e.name := by simpa using List.find?_some found
      rw [List.inj_on_of_nodup_map nodup (List.mem_of_find?_eq_some found) he same]
      rfl

theorem exists_entry_of_child? {listable : Bool} {es : List (Entry Node)} {name : Name} {n : Node}
    (h : (Node.directory listable es).child? name = some n) : ∃ e ∈ es, e.name = name ∧ e.node = n := by
  obtain ⟨e, found, rfl⟩ := Option.map_eq_some_iff.1 h
  exact ⟨e, List.mem_of_find?_eq_some found, by simpa using List.find?_some found, rfl⟩

/-- What holds of the nodes in a directory whenever it holds of the directory holds of all that is below. -/
theorem of_at? {P : Node → Prop} (child : ∀ {n m : Node} {name : Name}, P n → n.child? name = some m → P m)
    {n m : Node} {names : List Name} (h : P n) (hm : n.at? names = some m) : P m := by
  induction names generalizing n with
  | nil =>
    simp only [Node.at?, List.foldlM_nil] at hm
    obtain rfl : n = m := Option.some.inj hm
    exact h
  | cons name names ih =>
    simp only [Node.at?, List.foldlM_cons] at hm
    obtain ⟨k, hk, hm⟩ := Option.bind_eq_some_iff.1 hm
    exact ih (child h hk) hm

end Node

theorem Except.bind_eq_ok {ε α β : Type} {x : Except ε α} {f : α → Except ε β} {b : β} :
    x.bind f = .ok b ↔ ∃ a, x = .ok a ∧ f a = .ok b := by
  cases x with
  | error e => simp [Except.bind]
  | ok a => simp [Except.bind]

namespace FileSystem

theorem stat_eq_ok {fs : FileSystem} {t : Name} {n : Node} :
    fs.stat t = .ok n ↔ ∃ place, fs.placeOf t = .ok place ∧ fs.standingAt t place = .ok n := Except.bind_eq_ok

theorem standingAt_eq_ok {fs : FileSystem} {t : Name} {place : List Name} {n : Node} :
    fs.standingAt t place = .ok n ↔ fs.at? place = some n ∧ (t.getLast? = some Name.slash → n.isDirectory = true) := by
  rw [standingAt]
  split
  · rename_i missing
    simp [missing]
  · rename_i m found
    rw [found]
    by_cases asked : t.getLast? = some Name.slash ∧ ¬ m.isDirectory
    · rw [if_pos asked]
      constructor
      · intro h
        cases h
      · rintro ⟨same, directory⟩
        obtain rfl := Option.some.inj same
        exact absurd (directory asked.1) asked.2
    · rw [if_neg asked]
      constructor
      · intro h
        obtain rfl := Except.ok.inj h
        exact ⟨rfl, fun slash => by_contra fun other => asked ⟨slash, other⟩⟩
      · rintro ⟨same, -⟩
        rw [Option.some.inj same]

theorem of_stat {P : Node → Prop} (child : ∀ {n m : Node} {name : Name}, P n → n.child? name = some m → P m)
    (empty : P .emptyDirectory) {fs : FileSystem} {t : Name} {n : Node} (h : P fs.tree) (hn : fs.stat t = .ok n) :
    P n := by
  have stands {place : List Name} (hn : fs.at? place = some n) : P n := by
    rw [at?] at hn
    split at hn
    · exact Node.of_at? child h hn
    · split at hn
      · obtain rfl := Option.some.inj hn
        exact empty
      · cases hn
  obtain ⟨place, -, hn⟩ := stat_eq_ok.1 hn
  exact stands (standingAt_eq_ok.1 hn).1

end FileSystem

namespace Audit

/-- A scan starts at a directory. -/
theorem rootAt_directory {fs : FileSystem} {root : Path} {n : Node} (h : rootAt fs root = .ok n) :
    ∃ listable es, n = .directory listable es ∧ fs.stat root.text = .ok n := by
  rw [rootAt] at h
  split at h
  · rename_i listable es hs
    obtain rfl := Except.ok.inj h
    exact ⟨listable, es, rfl, hs⟩
  all_goals cases h

/-- What holds of a whole tree and of all below whatever it holds of, and of the empty directory, holds of the root. -/
theorem of_rootAt {P : Node → Prop} (child : ∀ {n m : Node} {name : Name}, P n → n.child? name = some m → P m)
    (empty : P .emptyDirectory) {fs : FileSystem} {root : Path} {n : Node} (h : P fs.tree)
    (hn : rootAt fs root = .ok n) : P n := by
  obtain ⟨_, _, _, hs⟩ := rootAt_directory hn
  exact FileSystem.of_stat child empty h hs

theorem namesDistinct_of_rootAt {fs : FileSystem} {root : Path} {n : Node} (h : fs.tree.NamesDistinct)
    (hn : rootAt fs root = .ok n) : n.NamesDistinct :=
  of_rootAt Node.NamesDistinct.child .emptyDirectory h hn

end Audit

end DependencyAudit
