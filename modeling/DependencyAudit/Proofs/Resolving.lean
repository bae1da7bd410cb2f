import DependencyAudit.FileSystem.Basic
import DependencyAudit.Proofs.RelativePath
import Mathlib.Data.List.Induction

namespace DependencyAudit.FileSystem

/-- Names that can be written between slashes. -/
def Solid (names : List Name) : Prop := ∀ n ∈ names, Name.slash ∉ n

/-- Where links are known to lead, no name holds a slash. -/
def Trail.IsSolid (trail : Trail) : Prop := ∀ link ∈ trail, ∀ place ∈ link.2, Solid place.names

/-- No name in what a resolution gives holds a slash. -/
structure Resolved.IsSolid (r : Resolved) : Prop where
  place : Solid r.place.names
  trail : Trail.IsSolid r.trail

theorem Solid.append {ms ns : List Name} (hm : Solid ms) (hn : Solid ns) : Solid (ms ++ ns) :=
  List.forall_mem_append.2 ⟨hm, hn⟩

theorem Solid.of_subset {ms ns : List Name} (h : Solid ns) (sub : ms ⊆ ns) : Solid ms := fun n hn => h n (sub hn)

theorem Solid.child {place : Path} {n : Name} (h : Solid place.names) (hn : Name.slash ∉ n) :
    Solid (place.child n).names :=
  h.append (List.forall_mem_singleton.2 hn)

theorem Solid.parent {place : Path} (h : Solid place.names) : Solid (parent place).names := by
  rw [FileSystem.parent]
  split
  · exact h.child (by decide)
  · exact h.of_subset (List.dropLast_subset _)

theorem Solid.behind {place : Path} {parts : List Name} (h : Solid place.names) (hp : Solid parts) :
    Solid (behind place parts).names := by
  unfold FileSystem.behind
  split
  · exact hp.of_subset (List.subset_cons_self ..)
  · exact h.append hp

theorem mem_flatten {n : Name} {names : List Name} (h : n ∈ flatten names) : n ∈ names ∧ n ≠ [] ∧ n ≠ Path.dot := by
  induction names using List.reverseRecOn with
  | nil => exact absurd h List.not_mem_nil
  | append_singleton names m ih =>
    have step : flatten (names ++ [m]) = if m = [] ∨ m = Path.dot then flatten names
        else if m = Path.dotDot then (flatten names).dropLast else flatten names ++ [m] := by
      rw [flatten, List.foldl_concat]
      rfl
    rw [step] at h
    have earlier (h : n ∈ flatten names) : n ∈ names ++ [m] ∧ n ≠ [] ∧ n ≠ Path.dot :=
      ⟨List.mem_append_left [m] (ih h).1, (ih h).2⟩
    split at h
    · exact earlier h
    · rename_i other
      split at h
      · exact earlier (List.dropLast_subset _ h)
      · rcases List.mem_append.1 h with h | h
        · exact earlier h
        · obtain rfl := List.mem_singleton.1 h
          exact ⟨List.mem_append_right names h, not_or.1 other⟩

section Resolving

variable {fs : FileSystem} {trail : Trail} {place : Path} {parts : List Name}

/-- Parts of a path are resolved to a place without slashes in its names if the targets of links are. What is known of
links goes from part to part and grows with each link met. -/
theorem resolveParts_isSolid {inner : Trail → Path → List Name → Resolved}
    (led : ∀ trail place parts, Trail.IsSolid trail → Solid place.names → Solid parts →
      (inner trail place parts).IsSolid)
    (known : Trail.IsSolid trail) (start : Solid place.names) (hp : Solid parts) :
    (fs.resolveParts inner trail place parts).IsSolid := by
  induction parts generalizing trail place with
  | nil => exact ⟨start, known⟩
  | cons name rest ih =>
    obtain ⟨hn, hr⟩ : Name.slash ∉ name ∧ Solid rest := List.forall_mem_cons.1 hp
    have next : Solid (place.child name).names := start.child hn
    rw [resolveParts]
    split
    · exact ih known start hr
    split
    · exact ih known start.parent hr
    dsimp only
    split
    · rename_i target _
      split
      · rename_i resolved found
        exact ih known (known _ (List.mem_of_find?_eq_some found) resolved rfl) hr
      · exact ⟨next.behind hr, known⟩
      · -- The link is met for the first time: its target is resolved, and the rest from where it leads.
        have met : Trail.IsSolid ((place.child name, none) :: trail) :=
          List.forall_mem_cons.2 ⟨fun _ none => absurd none (Option.not_mem_none _), known⟩
        have top : Solid (if isAbsolute target then (⟨.root, []⟩ : Path) else place).names := by
          split
          · exact fun _ hm => absurd hm List.not_mem_nil
          · exact start
        generalize (if isAbsolute target then (⟨.root, []⟩ : Path) else place) = first at top ⊢
        have whole : Solid (target.splitOn Name.slash) := fun _ => not_mem_of_mem_splitOn
        have sound := led _ _ _ met top whole
        split
        · refine ih (List.forall_mem_cons.2 ⟨?_, sound.trail⟩) sound.place hr
          intro p hp
          obtain rfl := Option.some.inj hp
          exact sound.place
        · exact ⟨sound.place.behind hr, sound.trail⟩
    · exact ih known next hr

theorem resolveFrom_isSolid (depth : Nat) (known : Trail.IsSolid trail) (start : Solid place.names)
    (hp : Solid parts) : (fs.resolveFrom depth trail place parts).IsSolid := by
  induction depth generalizing trail place parts with
  | zero => exact ⟨start.behind hp, known⟩
  | succ depth ih => exact resolveParts_isSolid (fun _ _ _ => ih) known start hp

end Resolving

theorem isNormal_absolute {here : List Name} {p : Path} (hh : Solid here) (hp : Solid p.names) :
    (absolute here p).IsNormal := by
  rw [absolute]
  split
  · intro n hn
    obtain ⟨mem, ne_nil, ne_dot⟩ := mem_flatten hn
    exact ⟨ne_nil, ne_dot, hh.append hp n mem⟩
  · intro n hn
    obtain ⟨mem, ne_nil, ne_dot⟩ := mem_flatten hn
    exact ⟨ne_nil, ne_dot, hp n mem⟩

theorem isNormal_led {fs : FileSystem} {p : Path} (here : Solid fs.here) (hp : Solid p.names) : (fs.led p).IsNormal := by
  have start : Solid (if p.anchor = .relative then Path.here else ⟨.root, []⟩).names := by
    split <;> exact fun _ hm => absurd hm List.not_mem_nil
  have sound : (fs.resolveFrom fs.resolveDepth [] _ p.names).IsSolid :=
    resolveFrom_isSolid fs.resolveDepth (fun _ hl => absurd hl List.not_mem_nil) start hp
  exact isNormal_absolute here sound.place

theorem eq_led_of_resolve {fs : FileSystem} {p q : Path} (h : fs.resolve p = .ok q) : q = fs.led p := by
  rw [resolve] at h
  split at h
  · cases h
  split at h
  · cases h
  split at h
  · cases h
  · exact (Except.ok.inj h).symm

/-- A resolved path has neither empty names nor dots, nor a slash in a name. -/
theorem isNormal_of_resolve {fs : FileSystem} {p q : Path} (here : Solid fs.here) (hp : Solid p.names)
    (h : fs.resolve p = .ok q) : q.IsNormal := by
  rw [eq_led_of_resolve h]
  exact isNormal_led here hp

end DependencyAudit.FileSystem
