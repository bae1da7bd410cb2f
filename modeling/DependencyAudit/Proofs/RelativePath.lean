import DependencyAudit.Path
import DependencyAudit.Proofs.Text

namespace DependencyAudit

theorem Anchor.text_injective : Function.Injective Anchor.text := by
  intro a b h
  cases a <;> cases b <;> simp_all [Anchor.text]

/-- What is written behind an anchor leaves it as it is unless it begins with a slash. -/
theorem Anchor.ofText_append (a : Anchor) {t : Name} (h : t.head? ≠ some Name.slash) : ofText (a.text ++ t) = a := by
  cases t with
  | nil => cases a <;> rfl
  | cons p r =>
    have other : p ≠ Name.slash := fun same => h (congrArg some same)
    cases p with
    | lone unit => cases a <;> rfl
    | scalar c =>
      have other : c ≠ '/' := fun same => other (congrArg CodePoint.scalar same)
      cases a <;> simp [Anchor.ofText, Anchor.text, Name.slash, other]

namespace Path

/-- What can be a component of a path. -/
structure IsName (n : Name) : Prop where
  ne_nil : n ≠ []
  ne_dot : n ≠ dot
  solid : Name.slash ∉ n

instance : DecidablePred IsName := fun n =>
  decidable_of_iff (n ≠ [] ∧ n ≠ dot ∧ Name.slash ∉ n)
    ⟨fun h => ⟨h.1, h.2.1, h.2.2⟩, fun h => ⟨h.ne_nil, h.ne_dot, h.solid⟩⟩

/-- A path as reading a text gives it. -/
def IsNormal (p : Path) : Prop := ∀ n ∈ p.names, IsName n

def IsAbsolute (p : Path) : Prop := p.anchor ≠ .relative

/-- The components of a path with the anchor, if there is one, as the first. -/
def parts (p : Path) : List Name := if p.anchor = .relative then p.names else p.anchor.text :: p.names

/-- A path that starts with the components of a directory. The working directory has none, and only relative paths lie
in it. -/
structure IsWithin (p directory : Path) : Prop where
  starts : directory.parts <+: p.parts
  absolute : p.IsAbsolute → directory.IsAbsolute

/-- A path that goes on behind a directory with at least one name. -/
def IsBelow (p directory : Path) : Prop :=
  ∃ q : Path, q.anchor = .relative ∧ q.names ≠ [] ∧ q.IsNormal ∧ directory.join q = p

theorem join_relative (d : Path) {q : Path} (h : q.anchor = .relative) : d.join q = ⟨d.anchor, d.names ++ q.names⟩ :=
  if_pos h

theorem components_append (s t : Name) : components (s ++ Name.slash :: t) = components s ++ components t := by
  rw [components, List.splitOn_append_cons_self, List.filter_append]
  rfl

theorem components_joinWith {ns : List Name} (h : ∀ n ∈ ns, IsName n) : components (joined ns) = ns := by
  cases ns with
  | nil => rfl
  | cons n ns =>
    have parted : (joined (n :: ns)).splitOn Name.slash = n :: ns :=
      List.splitOn_intercalate Name.slash (fun m hm => (h m hm).solid) (List.cons_ne_nil n ns)
    rw [components, parted, List.filter_eq_self]
    intro m hm
    simpa using And.intro (h m hm).ne_nil (h m hm).ne_dot

theorem components_anchor (a : Anchor) (t : Name) : components (a.text ++ t) = components t := by
  have slash (u : Name) : components (Name.slash :: u) = components u := components_append [] u
  cases a with
  | relative => rfl
  | root => exact slash t
  | doubleRoot => exact (slash (Name.slash :: t)).trans (slash t)

theorem head?_joinWith {ns : List Name} (h : ∀ n ∈ ns, IsName n) : (joined ns).head? ≠ some Name.slash := by
  cases ns with
  | nil => simp [joined]
  | cons n ns =>
    obtain ⟨ne_nil, -, solid⟩ := h n List.mem_cons_self
    obtain ⟨c, n, rfl⟩ := List.exists_cons_of_ne_nil ne_nil
    have other : c ≠ Name.slash := (List.ne_of_not_mem_cons solid).symm
    cases ns with
    | nil => simpa [joined] using other
    | cons m ns => simpa [joined] using other

/-- A path is read back from its text. -/
theorem ofText_text {p : Path} (h : p.IsNormal) : ofText p.text = p := by
  obtain ⟨anchor, names⟩ := p
  have h : ∀ n ∈ names, IsName n := h
  rw [text]
  split
  · rename_i empty
    obtain ⟨rfl, rfl⟩ := empty
    rfl
  · rw [ofText, Anchor.ofText_append anchor (head?_joinWith h), components_anchor, components_joinWith h]

/-- Just the normal paths are spelled by a text. -/
theorem isNormal_iff {p : Path} : p.IsNormal ↔ ∃ t, ofText t = p := by
  constructor
  · intro h
    exact ⟨p.text, ofText_text h⟩
  · rintro ⟨t, rfl⟩ n hn
    obtain ⟨mem, kept⟩ := List.mem_filter.1 hn
    obtain ⟨ne_nil, ne_dot⟩ : n ≠ [] ∧ n ≠ dot := by simpa using kept
    exact ⟨ne_nil, ne_dot, not_mem_of_mem_splitOn mem⟩

/-- The text of a path ends in its last component. -/
theorem name_suffix_text {p : Path} (h : p.names ≠ []) : p.name <:+ p.text := by
  have ends (ns : List Name) : ns.getLast?.getD [] <:+ joined ns := by
    induction ns with
    | nil => exact List.suffix_rfl
    | cons n ns ih =>
      cases ns with
      | nil => simp [joined]
      | cons m ns =>
        rw [List.getLast?_cons_cons, joined, List.intercalate_cons_cons]
        exact ih.trans (List.suffix_append ..)
  rw [text, if_neg fun empty => h empty.2]
  exact (ends p.names).trans (List.suffix_append ..)

theorem relativeTo?_eq_some {p d q : Path} : p.relativeTo? d = some q ↔ q.anchor = .relative ∧ d.join q = p := by
  obtain ⟨anchor, names⟩ := q
  constructor
  · intro h
    rw [relativeTo?] at h
    split at h
    · rename_i same
      obtain ⟨rest, below, whole⟩ := Option.map_eq_some_iff.1 h
      obtain ⟨rfl, rfl⟩ := Path.mk.inj whole
      rw [join_relative d rfl]
      exact ⟨rfl, Path.ext same.symm (List.isPrefixOf?_eq_some_iff_append_eq.1 below)⟩
    · cases h
  · rintro ⟨rfl, rfl⟩
    rw [join_relative d rfl, relativeTo?, if_pos rfl, List.isPrefixOf?_eq_some_iff_append_eq.2 rfl]
    rfl

theorem slash_mem_anchor {a : Anchor} (h : a ≠ .relative) : Name.slash ∈ a.text := by
  cases a with
  | relative => exact absurd rfl h
  | root => exact List.mem_cons_self
  | doubleRoot => exact List.mem_cons_self

/-- No component of a path is an anchor, so that the anchors have to be the same. -/
theorem isWithin_iff {p d : Path} (h : p.IsNormal) : p.IsWithin d ↔ p.anchor = d.anchor ∧ d.names <+: p.names := by
  constructor
  · rintro ⟨starts, absolute⟩
    rw [parts, parts] at starts
    split at starts
    · rename_i relative
      have both : p.anchor = .relative := by
        by_contra other
        exact absolute other relative
      rw [if_pos both] at starts
      exact ⟨both.trans relative.symm, starts⟩
    · rename_i top
      split at starts
      · obtain ⟨rest, whole⟩ := starts
        have first : d.anchor.text ∈ p.names := whole ▸ List.mem_cons_self
        exact absurd (slash_mem_anchor top) (h _ first).solid
      · obtain ⟨same, starts⟩ := List.cons_prefix_cons.1 starts
        exact ⟨Anchor.text_injective same.symm, starts⟩
  · rintro ⟨same, starts⟩
    constructor
    · rw [parts, parts, same]
      split
      · exact starts
      · exact List.cons_prefix_cons.2 ⟨rfl, starts⟩
    · rw [IsAbsolute, same]
      exact id

/-- What lies in a directory is what is joined to it. -/
theorem isWithin_iff_exists_join {p d : Path} (h : p.IsNormal) :
    p.IsWithin d ↔ ∃ q : Path, q.anchor = .relative ∧ d.join q = p := by
  rw [isWithin_iff h]
  constructor
  · rintro ⟨same, rest, whole⟩
    refine ⟨⟨.relative, rest⟩, rfl, ?_⟩
    rw [join_relative d rfl]
    exact Path.ext same.symm whole
  · rintro ⟨q, relative, rfl⟩
    rw [join_relative d relative]
    exact ⟨rfl, List.prefix_append ..⟩

theorem relativeText_join (d : Path) {q : Path} (h : q.anchor = .relative) :
    (d.join q).relativeText (some d) = q.text := by
  rw [relativeText, relativeTo?_eq_some.2 ⟨h, rfl⟩]
  rfl

theorem relativeText_of_not_isWithin {p d : Path} (hp : p.IsNormal) (h : ¬ p.IsWithin d) :
    p.relativeText (some d) = p.text := by
  have apart : p.relativeTo? d = none := by
    apply Option.eq_none_iff_forall_ne_some.2
    intro q found
    exact h ((isWithin_iff_exists_join hp).2 ⟨q, relativeTo?_eq_some.1 found⟩)
  rw [relativeText, apart]
  rfl

theorem IsNormal.of_join {d q : Path} (relative : q.anchor = .relative) (h : (d.join q).IsNormal) : q.IsNormal := by
  rw [join_relative d relative] at h
  exact fun n hn => h n (List.mem_append_right d.names hn)

theorem relativeText_of_isWithin {p d : Path} (hp : p.IsNormal) (h : p.IsWithin d) :
    ∃ q : Path, q.anchor = .relative ∧ p.relativeText (some d) = q.text ∧ ofText q.text = q ∧ d.join q = p := by
  obtain ⟨q, relative, rfl⟩ := (isWithin_iff_exists_join hp).1 h
  exact ⟨q, relative, relativeText_join d relative, ofText_text (hp.of_join relative), rfl⟩

theorem isBelow_child {d : Path} {n : Name} (h : IsName n) : (d.child n).IsBelow d :=
  ⟨⟨.relative, [n]⟩, rfl, List.cons_ne_nil n [], List.forall_mem_singleton.2 h, rfl⟩

namespace IsBelow

variable {p d : Path}

theorem of_child {n : Name} (h : p.IsBelow (d.child n)) (hn : IsName n) : p.IsBelow d := by
  obtain ⟨q, relative, -, normal, rfl⟩ := h
  refine ⟨⟨.relative, n :: q.names⟩, rfl, List.cons_ne_nil _ _, List.forall_mem_cons.2 ⟨hn, normal⟩, ?_⟩
  rw [join_relative _ relative, join_relative d rfl, child, List.append_assoc]
  rfl

theorem isNormal (h : p.IsBelow d) (hd : d.IsNormal) : p.IsNormal := by
  obtain ⟨q, relative, -, normal, rfl⟩ := h
  rw [join_relative d relative]
  exact List.forall_mem_append.2 ⟨hd, normal⟩

/-- Below a directory the relative text leads to the path and ends in its name. -/
theorem relativeText (h : p.IsBelow d) :
    d.join (ofText (p.relativeText (some d))) = p ∧ p.name <:+ p.relativeText (some d) ∧
      (ofText (p.relativeText (some d))).name = p.name := by
  obtain ⟨q, relative, ne_nil, normal, rfl⟩ := h
  have name : (d.join q).name = q.name := by
    rw [join_relative d relative, Path.name, Path.name, List.getLast?_append_of_ne_nil _ ne_nil]
  rw [relativeText_join d relative, ofText_text normal, name]
  exact ⟨rfl, name_suffix_text ne_nil, rfl⟩

end IsBelow

end Path
end DependencyAudit
