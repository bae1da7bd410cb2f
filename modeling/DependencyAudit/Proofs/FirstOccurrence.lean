import DependencyAudit.Finding

namespace DependencyAudit

section Firsts

variable {α β γ : Type} [DecidableEq β] [DecidableEq γ]

/-- The items whose key no earlier item has. -/
def firsts (key : α → β) : List α → List α
  | [] => []
  | a :: as => a :: (firsts key as).filter fun b => key b ≠ key a

theorem firsts_sublist (key : α → β) (as : List α) : (firsts key as).Sublist as := by
  induction as with
  | nil => exact List.Sublist.slnil
  | cons a as ih =>
    have rest : ((firsts key as).filter fun b => key b ≠ key a).Sublist as :=
      (List.filter_sublist ..).trans ih
    exact rest.cons_cons a

theorem mem_of_mem_firsts {key : α → β} {as : List α} {a : α} (h : a ∈ firsts key as) : a ∈ as :=
  (firsts_sublist key as).subset h

theorem exists_mem_firsts {key : α → β} {as : List α} {a : α} (h : a ∈ as) :
    ∃ b ∈ firsts key as, key b = key a := by
  induction as with
  | nil => exact absurd h List.not_mem_nil
  | cons c as ih =>
    by_cases same : key a = key c
    · exact ⟨c, List.mem_cons_self, same.symm⟩
    · rcases List.mem_cons.1 h with rfl | h
      · exact absurd rfl same
      · obtain ⟨b, hb, hk⟩ := ih h
        have other : key b ≠ key c := hk ▸ same
        exact ⟨b, List.mem_cons_of_mem c (List.mem_filter.2 ⟨hb, by simpa using other⟩), hk⟩

theorem nodup_keys_firsts (key : α → β) (as : List α) : ((firsts key as).map key).Nodup := by
  induction as with
  | nil => exact List.nodup_nil
  | cons a as ih =>
    have rest : (((firsts key as).filter fun b => key b ≠ key a).map key).Nodup :=
      ih.sublist ((List.filter_sublist ..).map key)
    rw [firsts, List.map_cons, List.nodup_cons]
    refine ⟨?_, rest⟩
    intro bad
    obtain ⟨b, hb, same⟩ := List.mem_map.1 bad
    exact of_decide_eq_true (List.mem_filter.1 hb).2 same

theorem mem_keys_firsts {key : α → β} {as : List α} {k : β} : k ∈ (firsts key as).map key ↔ k ∈ as.map key := by
  constructor
  · intro mem
    exact ((firsts_sublist key as).map key).subset mem
  · intro mem
    obtain ⟨a, ha, rfl⟩ := List.mem_map.1 mem
    have kept : ∃ b ∈ firsts key as, key b = key a := exists_mem_firsts ha
    exact List.mem_map.2 kept

theorem firsts_of_nodup {key : α → β} {as : List α} (h : (as.map key).Nodup) : firsts key as = as := by
  induction as with
  | nil => rfl
  | cons a as ih =>
    obtain ⟨new, rest⟩ := List.nodup_cons.1 h
    have kept : (as.filter fun b => key b ≠ key a) = as := by
      apply List.filter_eq_self.2
      intro b hb
      have other : key b ≠ key a := fun same => new (same ▸ List.mem_map_of_mem hb)
      exact decide_eq_true other
    rw [firsts, ih rest, kept]

/-- Behind other items only those are kept whose key is new there as well. -/
theorem firsts_append (key : α → β) (as bs : List α) :
    firsts key (as ++ bs) = firsts key as ++ (firsts key bs).filter fun b => key b ∉ as.map key := by
  induction as with
  | nil =>
    rw [List.filter_eq_self.2 (by simp)]
    rfl
  | cons a as ih =>
    rw [List.cons_append, firsts, ih, List.filter_append, List.filter_filter, firsts, List.cons_append]
    congr 3
    funext b
    simp [List.mem_cons]

/-- Keys that occur on one side only leave both sides as they are. -/
theorem firsts_append_of_disjoint {key : α → β} {as bs : List α}
    (h : ∀ a ∈ as, ∀ b ∈ bs, key a ≠ key b) :
    firsts key (as ++ bs) = firsts key as ++ firsts key bs := by
  rw [firsts_append, List.filter_eq_self.2]
  intro b hb
  have hb := mem_of_mem_firsts hb
  simp only [List.mem_map, not_exists, not_and, decide_eq_true_eq]
  intro a ha
  exact h a ha b hb

theorem firsts_flatMap {key : α → β} {ι : Type} {f : ι → List α} {is : List ι}
    (h : is.Pairwise fun i j => ∀ a ∈ f i, ∀ b ∈ f j, key a ≠ key b) :
    firsts key (is.flatMap f) = is.flatMap fun i => firsts key (f i) := by
  induction is with
  | nil => rfl
  | cons i is ih =>
    obtain ⟨hi, hr⟩ := List.pairwise_cons.1 h
    rw [List.flatMap_cons, firsts_append_of_disjoint, ih hr, List.flatMap_cons]
    intro a ha b hb
    obtain ⟨j, hj, hb⟩ := List.mem_flatMap.1 hb
    exact hi j hj a ha b hb

/-- Which occurrence is the first does not depend on what else is kept, as long as equal keys are kept together. -/
theorem firsts_filter {key : α → β} {p : α → Bool} (hp : ∀ a b, key a = key b → p a = p b) (as : List α) :
    firsts key (as.filter p) = (firsts key as).filter p := by
  induction as with
  | nil => rfl
  | cons a as ih =>
    by_cases ha : p a = true
    · rw [List.filter_cons_of_pos ha, firsts, ih, firsts, List.filter_cons_of_pos ha, List.filter_filter,
        List.filter_filter]
      congr 2
      funext b
      exact Bool.and_comm _ _
    · rw [List.filter_cons_of_neg ha, ih, firsts, List.filter_cons_of_neg ha, List.filter_filter]
      apply List.filter_congr
      intro b _
      by_cases hb : key b = key a
      · simp [hp b a hb, ha]
      · simp [hb]

theorem firsts_congr {key : α → β} {other : α → γ} {as : List α}
    (h : ∀ a ∈ as, ∀ b ∈ as, key a = key b ↔ other a = other b) : firsts key as = firsts other as := by
  induction as with
  | nil => rfl
  | cons a as ih =>
    have tail : firsts key as = firsts other as := by
      apply ih
      intro b hb c hc
      exact h b (List.mem_cons_of_mem a hb) c (List.mem_cons_of_mem a hc)
    rw [firsts, firsts, tail]
    congr 1
    apply List.filter_congr
    intro b hb
    have hb := mem_of_mem_firsts hb
    simp [h b (List.mem_cons_of_mem a hb) a List.mem_cons_self]

end Firsts

namespace Finding

theorem keep_of_mem {kept : List Finding} {f : Finding} (h : f.key ∈ kept.map key) : keep kept f = kept := by
  obtain ⟨g, hg, he⟩ := List.mem_map.1 h
  have known : (kept.any fun k => k.key = f.key) = true := List.any_eq_true.2 ⟨g, hg, by simpa using he⟩
  rw [keep, if_pos known]

theorem keep_of_not_mem {kept : List Finding} {f : Finding} (h : f.key ∉ kept.map key) :
    keep kept f = kept ++ [f] := by
  have new : ¬ (kept.any fun k => k.key = f.key) = true := by
    intro bad
    obtain ⟨g, hg, he⟩ := List.any_eq_true.1 bad
    exact h (List.mem_map.2 ⟨g, hg, by simpa using he⟩)
  rw [keep, if_neg new]

/-- What is kept so far stays in front; of the rest the first of each new key follows. -/
theorem foldl_keep (kept fs : List Finding) :
    fs.foldl keep kept = kept ++ (firsts key fs).filter fun f => f.key ∉ kept.map key := by
  induction fs generalizing kept with
  | nil => simp [firsts]
  | cons f fs ih =>
    rw [List.foldl_cons, ih, firsts]
    -- A key that is kept already drops out of the rest with or without its second occurrence.
    by_cases hf : f.key ∈ kept.map key
    · rw [keep_of_mem hf, List.filter_cons_of_neg (by simpa using hf), List.filter_filter]
      congr 1
      apply List.filter_congr
      intro g _
      by_cases hg : g.key = f.key
      · simp [hg, hf]
      · simp [hg]
    · rw [keep_of_not_mem hf, List.filter_cons_of_pos (by simpa using hf), List.filter_filter, List.append_assoc]
      congr 1
      rw [List.singleton_append]
      congr 1
      apply List.filter_congr
      intro g _
      simp [not_or]

theorem distinct_eq_firsts (fs : List Finding) : distinct fs = firsts key fs := by
  rw [distinct, foldl_keep]
  simp

end Finding

end DependencyAudit
