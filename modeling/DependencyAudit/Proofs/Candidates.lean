import DependencyAudit.Proofs.Alias
import Mathlib.Data.List.Infix

namespace DependencyAudit.VersionSpec

/-- The bars between alternatives. -/
def bars : Text := ['|', '|']

/-- A version that a specification states by itself: it is not parted, and nothing in front of it is dropped. -/
def IsPlain (v : Text) : Prop := ¬ bars <:+: v ∧ ∀ c ∈ v.head?, isOperator c = false ∧ c ≠ 'v'

instance : DecidablePred IsPlain
  | [] => decidable_of_iff (¬ bars <:+: []) (by simp [IsPlain])
  | c :: t => decidable_of_iff (¬ bars <:+: c :: t ∧ isOperator c = false ∧ c ≠ 'v') (by simp [IsPlain])

theorem length_of_mem_pushFirst {c : Char} {a : Text} {ts : List Text} {k : Nat} (room : 0 < k)
    (each : ∀ t ∈ ts, t.length < k) (h : a ∈ Text.pushFirst c ts) : a.length < k + 1 := by
  cases ts with
  | nil =>
    obtain rfl := List.mem_singleton.1 h
    exact Nat.succ_lt_succ room
  | cons t ts =>
    rcases List.mem_cons.1 h with rfl | h
    · exact Nat.succ_lt_succ (each t List.mem_cons_self)
    · exact Nat.lt_succ_of_lt (each a (List.mem_cons_of_mem t h))

/-- A text without bars is its only alternative; where there are bars, no alternative is the whole. -/
theorem alternatives_shape (t : Text) :
    (¬ bars <:+: t ∧ alternatives t = [t]) ∨ (bars <:+: t ∧ ∀ a ∈ alternatives t, a.length < t.length) := by
  fun_induction alternatives t with
  | case1 => exact .inl ⟨by decide, rfl⟩
  | case2 r ih =>
    refine .inr ⟨(List.prefix_append bars r).isInfix, ?_⟩
    intro a ha
    rw [List.length_cons, List.length_cons]
    rcases List.mem_cons.1 ha with rfl | ha
    · exact Nat.succ_pos _
    · rcases ih with ⟨-, whole⟩ | ⟨-, shorter⟩
      · rw [whole] at ha
        obtain rfl := List.mem_singleton.1 ha
        omega
      · have := shorter a ha
        omega
  | case3 c r apart ih =>
    rcases ih with ⟨unparted, whole⟩ | ⟨parted, shorter⟩
    · refine .inl ⟨?_, by rw [whole]; rfl⟩
      intro inside
      rcases List.infix_cons_iff.1 inside with ⟨s, hs⟩ | inside
      · obtain ⟨rfl, hr⟩ := List.cons.inj hs
        exact apart s rfl hr.symm
      · exact unparted inside
    · refine .inr ⟨List.infix_cons parted, fun a ha => ?_⟩
      have room : 0 < r.length := Nat.lt_of_lt_of_le (by decide) parted.length_le
      exact length_of_mem_pushFirst room shorter ha

theorem dropMark_suffix (t : Text) : dropMark t <:+ t := by
  rw [dropMark.eq_def]
  split
  · exact List.suffix_cons ..
  · exact List.suffix_rfl

theorem bare_sublist (t : Text) : (bare t).Sublist t := by
  have outer := Text.trim_sublist (dropMark ((Text.trim t).dropWhile fun c => isOperator c || Text.isBlank c))
  have marked := (dropMark_suffix ((Text.trim t).dropWhile fun c => isOperator c || Text.isBlank c)).sublist
  have operators : ((Text.trim t).dropWhile fun c => isOperator c || Text.isBlank c).Sublist (Text.trim t) :=
    List.dropWhile_sublist _
  exact outer.trans (marked.trans (operators.trans (Text.trim_sublist t)))

/-- A trimmed alternative stands for itself unless something in front of it is dropped. -/
theorem bare_eq_self_iff {v : Text} (trimmed : Text.trim v = v) :
    bare v = v ↔ ∀ c ∈ v.head?, isOperator c = false ∧ c ≠ 'v' := by
  cases v with
  | nil => simp [bare, trimmed, dropMark]
  | cons c r =>
    have solid : Text.isBlank c = false := Text.head_of_trim trimmed
    simp only [List.head?_cons, Option.mem_some_iff, forall_eq']
    cases hc : isOperator c with
    | true =>
      refine iff_of_false ?_ (by simp)
      intro same
      have gone : bare (c :: r) = Text.trim (dropMark (r.dropWhile fun c => isOperator c || Text.isBlank c)) := by
        rw [bare, trimmed, List.dropWhile_cons_of_pos (by simp [hc])]
      have shorter : (bare (c :: r)).Sublist r := by
        rw [gone]
        exact (Text.trim_sublist _).trans ((dropMark_suffix _).sublist.trans (List.dropWhile_sublist _))
      have length := shorter.length_le
      rw [same, List.length_cons] at length
      omega
    | false =>
      have kept : bare (c :: r) = Text.trim (dropMark (c :: r)) := by
        rw [bare, trimmed, List.dropWhile_cons_of_neg (by simp [hc, solid])]
      rw [kept, and_iff_right rfl]
      by_cases mark : c = 'v'
      · subst mark
        refine iff_of_false ?_ (by simp)
        intro same
        have length := (Text.trim_sublist r).length_le
        rw [show Text.trim r = 'v' :: r from same, List.length_cons] at length
        omega
      · have unmarked : dropMark (c :: r) = c :: r := by
          rw [dropMark.eq_def]
          split
          · rename_i same
            exact absurd (List.cons.inj same).1 mark
          · rfl
        rw [unmarked, trimmed]
        exact iff_of_true rfl mark

/-- A version without a colon is among its own candidates exactly if it is plain. -/
theorem mem_candidates_self_iff {v : Text} (trimmed : Text.trim v = v) (present : v ≠ []) (solid : ':' ∉ v) :
    v ∈ candidates v ↔ IsPlain v := by
  have no_alias : aliased? v = none := aliased?_eq_none.2 fun _ _ found => solid found.colon_mem
  rw [candidates, no_alias]
  simp only [List.mem_filter, List.mem_map, decide_eq_true_eq, ne_eq, and_iff_left present]
  rcases alternatives_shape v with ⟨unparted, whole⟩ | ⟨parted, shorter⟩
  · rw [whole]
    simp only [List.mem_singleton, exists_eq_left, IsPlain, and_iff_right unparted]
    exact bare_eq_self_iff trimmed
  · refine iff_of_false ?_ fun plain => plain.1 parted
    rintro ⟨a, ha, same⟩
    have length := (bare_sublist a).length_le
    have := shorter a ha
    rw [same] at length
    omega

end DependencyAudit.VersionSpec
