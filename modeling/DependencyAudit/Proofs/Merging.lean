import DependencyAudit.Collector
import DependencyAudit.Proofs.FirstOccurrence
import DependencyAudit.Proofs.Mention.Report
import Mathlib.Data.Fintype.Basic
import Mathlib.Data.List.FinRange

namespace DependencyAudit

section Places

variable {α β : Type} {key : α → β} {a : α} {as : List α}

/-- A place whose key stands at no earlier place. -/
def IsNew (key : α → β) (as : List α) (i : Fin as.length) : Prop := ∀ j < i, key (as.get j) ≠ key (as.get i)

instance [DecidableEq β] (key : α → β) (as : List α) : DecidablePred (IsNew key as) :=
  fun i => inferInstanceAs (Decidable (∀ j < i, key (as.get j) ≠ key (as.get i)))

theorem isNew_zero : IsNew key (a :: as) ⟨0, Nat.succ_pos _⟩ := by
  intro j before
  exact absurd before (Nat.not_lt_zero j.val)

theorem isNew_succ {i : Fin as.length} : IsNew key (a :: as) i.succ ↔ key a ≠ key (as.get i) ∧ IsNew key as i := by
  constructor
  · intro new
    refine ⟨new ⟨0, Nat.succ_pos _⟩ (Fin.succ_pos i), ?_⟩
    intro j before
    exact new j.succ (Fin.succ_lt_succ_iff.2 before)
  · rintro ⟨first, rest⟩ j before
    cases j using Fin.cases with
    | zero => exact first
    | succ j => exact rest j (Fin.succ_lt_succ_iff.1 before)

/-- The first of each key are the items at the new places, in order. -/
theorem firsts_eq_map_get [DecidableEq β] (key : α → β) (as : List α) :
    firsts key as = ((List.finRange as.length).filter (IsNew key as ·)).map as.get := by
  induction as with
  | nil => rfl
  | cons a as ih =>
    have places : List.finRange (a :: as).length = ⟨0, Nat.succ_pos _⟩ :: (List.finRange as.length).map Fin.succ :=
      List.finRange_succ
    have further : ((List.finRange as.length).filter (IsNew key (a :: as) ·.succ)).map as.get =
        (((List.finRange as.length).filter (IsNew key as ·)).map as.get).filter fun b => key b ≠ key a := by
      rw [List.filter_map, List.filter_filter]
      congr 1
      apply List.filter_congr
      intro i _
      have other : key a ≠ key (as.get i) ↔ key (as.get i) ≠ key a := ne_comm
      simp only [isNew_succ, other, Function.comp_apply, Bool.decide_and]
    rw [places, List.filter_cons, if_pos (decide_eq_true isNew_zero), List.map_cons, List.filter_map, List.map_map, firsts,
      ih, ← further]
    rfl

end Places

section Chunks

variable {α β : Type} [DecidableEq β]

theorem firsts_firsts (key : α → β) (as : List α) : firsts key (firsts key as) = firsts key as :=
  firsts_of_nodup (nodup_keys_firsts key as)

/-- What each part repeats in itself can be dropped before the parts are put together. -/
theorem firsts_append_firsts (key : α → β) (as bs : List α) :
    firsts key (firsts key as ++ firsts key bs) = firsts key (as ++ bs) := by
  simp only [firsts_append, firsts_firsts, mem_keys_firsts]

theorem firsts_flatMap_firsts (key : α → β) (parts : List (List α)) :
    firsts key (parts.flatMap (firsts key)) = firsts key parts.flatten := by
  induction parts with
  | nil => rfl
  | cons as parts ih =>
    rw [List.flatMap_cons, List.flatten_cons, ← firsts_append_firsts, firsts_firsts, ih, firsts_append_firsts]

end Chunks

namespace Collector

variable {ε : Type}

theorem merge_found (c : Collector) (files : List (List Finding)) :
    (c.merge (files.map fun fs => fs.map (Except.ok (ε := ε)))).result = .ok (Finding.distinct files.flatten) := by
  have all : (files.map fun fs => fs.map (Except.ok (ε := ε))).flatten.mapM id = .ok files.flatten := by
    rw [← List.map_flatten, mapM_map_ok]
  rw [merge, all]

theorem merge_flatten (c : Collector) (files : List (List (Except ε Finding))) :
    c.merge files = c.merge [files.flatten] := by
  rw [merge, merge, List.flatten_singleton]

/-- Of findings those are kept whose file, name and version no earlier one has: every key once, and none is lost. Dropping
repetitions again, or in parts first, changes nothing. A merge gives what is kept of all files one behind the other, wherever
one file ends and the next begins. -/
theorem merge_distinct :
    (∀ fs : List Finding,
      Finding.distinct fs = ((List.finRange fs.length).filter (IsNew Finding.key fs ·)).map fs.get ∧
      ((Finding.distinct fs).map Finding.key).Nodup ∧
      (∀ k, k ∈ (Finding.distinct fs).map Finding.key ↔ k ∈ fs.map Finding.key) ∧
      Finding.distinct (Finding.distinct fs) = Finding.distinct fs) ∧
    (∀ fs gs, Finding.distinct (fs ++ gs) = Finding.distinct (Finding.distinct fs ++ Finding.distinct gs)) ∧
    (∀ (c : Collector) (files : List (List Finding)),
      (c.merge (files.map fun fs => fs.map (Except.ok (ε := ε)))).result = .ok (Finding.distinct files.flatten) ∧
      Finding.distinct (files.flatMap Finding.distinct) = Finding.distinct files.flatten) ∧
    ∀ (c : Collector) (files : List (List (Except ε Finding))), c.merge files = c.merge [files.flatten] := by
  have distinct_eq : Finding.distinct = firsts Finding.key := funext Finding.distinct_eq_firsts
  refine ⟨?_, ?_, ?_, merge_flatten⟩
  · intro fs
    rw [distinct_eq]
    refine ⟨firsts_eq_map_get Finding.key fs, nodup_keys_firsts Finding.key fs, ?_, firsts_firsts Finding.key fs⟩
    intro k
    exact mem_keys_firsts
  · intro fs gs
    rw [distinct_eq, firsts_append_firsts]
  · intro c files
    refine ⟨merge_found c files, ?_⟩
    rw [distinct_eq, firsts_flatMap_firsts]

/-- Two spellings of a path are one key, whatever the source and the group; the first finding stays as it is. -/
example :
    let lodash (path source : String) (group : Option Text) : Finding :=
      ⟨Path.ofText path.toList, "lodash".toList, ['1'], source.toList, group, by decide, by decide⟩
    Finding.distinct [lodash "/a//yarn.lock" "yarn.lock" none, lodash "/b/yarn.lock" "yarn.lock" none,
        lodash "/a/./yarn.lock" "other" (some ['d'])] =
      [lodash "/a//yarn.lock" "yarn.lock" none, lodash "/b/yarn.lock" "yarn.lock" none] := by
  decide

end Collector

end DependencyAudit
