import DependencyAudit.Proofs.Text
import DependencyAudit.VersionSpec
import Mathlib.Data.List.TakeWhile

namespace DependencyAudit.VersionSpec

/-- An alias stands in a specification: behind some text the mark of an alias, a package, an at-sign, and then
something that does not start with a blank. -/
def AliasAt (spec before behind : Text) : Prop :=
  ∃ package, package ≠ [] ∧ '@' ∉ package ∧ (∃ c r, behind = c :: r ∧ Text.isBlank c = false) ∧
    spec = before ++ ("npm:".toList ++ (package ++ '@' :: behind))

variable {spec before behind v : Text}

theorem aliasAt_cons {c d : Char} :
    AliasAt (c :: spec) (d :: before) behind ↔ c = d ∧ AliasAt spec before behind := by
  constructor
  · rintro ⟨package, named, single, stated, starts⟩
    obtain ⟨rfl, rfl⟩ := List.cons.inj starts
    exact ⟨rfl, package, named, single, stated, rfl⟩
  · rintro ⟨rfl, package, named, single, stated, rfl⟩
    exact ⟨package, named, single, stated, rfl⟩

theorem not_aliasAt_nil : ¬ AliasAt [] before behind := by
  rintro ⟨package, -, -, -, empty⟩
  have parts := List.append_eq_nil_iff.1 empty.symm
  cases (List.append_eq_nil_iff.1 parts.2).1

/-- An alias stays where text is put in front of it. -/
theorem AliasAt.append_left (t : Text) (h : AliasAt spec before behind) : AliasAt (t ++ spec) (t ++ before) behind := by
  obtain ⟨package, named, single, stated, rfl⟩ := h
  exact ⟨package, named, single, stated, (List.append_assoc ..).symm⟩

/-- An alias stays where text is put behind it, if with another end. -/
theorem AliasAt.append_right (t : Text) (h : AliasAt spec before behind) : AliasAt (spec ++ t) before (behind ++ t) := by
  obtain ⟨package, named, single, ⟨c, r, rfl, solid⟩, rfl⟩ := h
  refine ⟨package, named, single, ⟨c, r ++ t, rfl, solid⟩, ?_⟩
  simp

theorem AliasAt.at_mem (h : AliasAt spec before behind) : '@' ∈ spec := by
  obtain ⟨package, -, -, -, rfl⟩ := h
  simp

theorem AliasAt.colon_mem (h : AliasAt spec before behind) : ':' ∈ spec := by
  obtain ⟨package, -, -, -, rfl⟩ := h
  simp

theorem takeWhile_solid_ne_nil {t : Text} :
    t.takeWhile (!Text.isBlank ·) ≠ [] ↔ ∃ c r, t = c :: r ∧ Text.isBlank c = false := by
  cases t with
  | nil => simp
  | cons c r => cases blank : Text.isBlank c <;> simp [blank]

theorem aliasHere?_eq_some :
    aliasHere? spec = some v ↔ ∃ behind, AliasAt spec [] behind ∧ v = behind.takeWhile (!Text.isBlank ·) := by
  constructor
  · intro h
    rw [aliasHere?] at h
    split at h
    · cases h
    · rename_i r opened
      split at h
      · rename_i p package a behind named closed
        obtain ⟨rfl, single, rfl⟩ := Text.takeWhile_dropWhile_ne.1 ⟨named, closed⟩
        split at h
        · cases h
        · rename_i present
          obtain rfl := Option.some.inj h
          have starts : spec = "npm:".toList ++ (p :: package ++ '@' :: behind) :=
            Text.afterWord_eq_some.1 opened
          exact ⟨behind, ⟨p :: package, List.cons_ne_nil p package, single, takeWhile_solid_ne_nil.1 present, starts⟩,
            rfl⟩
      · cases h
  · rintro ⟨behind, ⟨package, present, single, stated, rfl⟩, rfl⟩
    have opened : Text.afterWord "npm:".toList ([] ++ ("npm:".toList ++ (package ++ '@' :: behind))) =
        some (package ++ '@' :: behind) := Text.afterWord_eq_some.2 rfl
    have parted : package ++ '@' :: behind = package ++ '@' :: behind := rfl
    obtain ⟨named, closed⟩ := Text.takeWhile_dropWhile_ne.2 ⟨rfl, single, parted⟩
    obtain ⟨p, package, rfl⟩ := List.exists_cons_of_ne_nil present
    obtain ⟨c, version, found⟩ := List.exists_cons_of_ne_nil (takeWhile_solid_ne_nil.2 stated)
    simp only [aliasHere?, opened, named, closed, found]

/-- The search finds an alias wherever one stands. -/
theorem aliased?_eq_none : aliased? spec = none ↔ ∀ before behind, ¬ AliasAt spec before behind := by
  induction spec with
  | nil => exact iff_of_true rfl fun _ _ => not_aliasAt_nil
  | cons c t ih =>
    rw [aliased?]
    cases here : aliasHere? (c :: t) with
    | some v =>
      obtain ⟨behind, found, -⟩ := aliasHere?_eq_some.1 here
      exact iff_of_false (Option.some_ne_none v) fun none_found => none_found [] behind found
    | none =>
      refine ih.trans ?_
      constructor
      · intro later before behind found
        cases before with
        | nil =>
          have stated := aliasHere?_eq_some.2 ⟨behind, found, rfl⟩
          rw [here] at stated
          cases stated
        | cons d before => exact later before behind (aliasAt_cons.1 found).2
      · intro none_found before behind found
        exact none_found (c :: before) behind (aliasAt_cons.2 ⟨rfl, found⟩)

/-- What the search finds is the version of the leftmost alias. -/
theorem exists_of_aliased? (h : aliased? spec = some v) :
    ∃ before behind, AliasAt spec before behind ∧ v = behind.takeWhile (!Text.isBlank ·) ∧
      ∀ before' behind', AliasAt spec before' behind' → before.length ≤ before'.length := by
  induction spec with
  | nil => cases h
  | cons c t ih =>
    rw [aliased?] at h
    cases here : aliasHere? (c :: t) with
    | some u =>
      rw [here] at h
      obtain rfl := Option.some.inj h
      obtain ⟨behind, found, stated⟩ := aliasHere?_eq_some.1 here
      exact ⟨[], behind, found, stated, fun _ _ _ => Nat.zero_le _⟩
    | none =>
      rw [here] at h
      obtain ⟨before, behind, found, stated, leftmost⟩ := ih h
      refine ⟨c :: before, behind, aliasAt_cons.2 ⟨rfl, found⟩, stated, ?_⟩
      intro before' behind' found'
      cases before' with
      | nil =>
        have stated' := aliasHere?_eq_some.2 ⟨behind', found', rfl⟩
        rw [here] at stated'
        cases stated'
      | cons d before' => exact Nat.succ_le_succ (leftmost before' behind' (aliasAt_cons.1 found').2)

end DependencyAudit.VersionSpec
