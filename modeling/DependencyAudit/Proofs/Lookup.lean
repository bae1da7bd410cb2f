import DependencyAudit.Proofs.Record.Line
import DependencyAudit.Watchlist.Basic

namespace DependencyAudit

namespace Text

theorem mem_insertSorted {t u : Text} {us : List Text} : u ∈ insertSorted t us ↔ u = t ∨ u ∈ us := by
  induction us with
  | nil => rw [insertSorted, List.mem_singleton, or_iff_left List.not_mem_nil]
  | cons v us ih =>
    rw [insertSorted]
    split
    · rename_i h
      simp [h]
    · split
      · exact List.mem_cons
      · rw [List.mem_cons, ih, List.mem_cons]
        exact or_left_comm

end Text

namespace Watchlist

/-- Every version that is listed under a name has its key listed as well. -/
def KeysCover (w : Watchlist) : Prop := ∀ n v, v ∈ w.versionsOf n → Record.key ⟨n, v⟩ ∈ w.keys

theorem KeysCover.empty : KeysCover empty := by
  intro n v h
  exact absurd h List.not_mem_nil

theorem versionsOf_cons (l : Listing) (ls : List Listing) (keys : List Text) (n : Text) :
    versionsOf ⟨l :: ls, keys⟩ n = if l.name = n then l.versions else versionsOf ⟨ls, keys⟩ n := by
  by_cases h : l.name = n
  · simp [versionsOf, h]
  · simp [versionsOf, h]

theorem mem_versionsOf_addListing {name version n v : Text} {ls : List Listing} {keys : List Text}
    (h : v ∈ versionsOf ⟨addListing name version ls, keys⟩ n) :
    name = n ∧ v = version ∨ v ∈ versionsOf ⟨ls, keys⟩ n := by
  induction ls with
  | nil =>
    rw [addListing, versionsOf_cons] at h
    split at h
    · rename_i same
      exact .inl ⟨same, List.mem_singleton.1 h⟩
    · exact .inr h
  | cons l ls ih =>
    rw [versionsOf_cons]
    rw [addListing] at h
    by_cases asked : l.name = n
    · rw [if_pos asked]
      split at h
      · rename_i same
        rw [versionsOf_cons, if_pos (same.trans asked)] at h
        exact (Text.mem_insertSorted.1 h).imp_left fun hv => ⟨same.trans asked, hv⟩
      · rename_i other
        have hn : name ≠ n := fun e => other (e.trans asked.symm)
        split at h
        · rw [versionsOf_cons, if_neg hn, versionsOf_cons, if_pos asked] at h
          exact .inr h
        · rw [versionsOf_cons, if_pos asked] at h
          exact .inr h
    · rw [if_neg asked]
      split at h
      · rename_i same
        rw [versionsOf_cons, if_neg (same ▸ asked)] at h
        exact .inr h
      · split at h
        · rw [versionsOf_cons, versionsOf_cons, if_neg asked] at h
          split at h
          · rename_i opened
            exact .inl ⟨opened, List.mem_singleton.1 h⟩
          · exact .inr h
        · rw [versionsOf_cons, if_neg asked] at h
          exact ih h

theorem KeysCover.add {w : Watchlist} (h : w.KeysCover) (r : Record) : (w.add r).KeysCover := by
  intro n v hv
  apply Text.mem_insertSorted.2
  rcases mem_versionsOf_addListing hv with ⟨rfl, rfl⟩ | hv
  · exact .inl rfl
  · exact .inr (h n v hv)

theorem foldl_add {w : Watchlist} (h : w.KeysCover) (rs : List Record) :
    (rs.foldl add w).KeysCover ∧ ∀ k, k ∈ (rs.foldl add w).keys ↔ (∃ r ∈ rs, r.key = k) ∨ k ∈ w.keys := by
  induction rs generalizing w with
  | nil =>
    refine ⟨h, ?_⟩
    intro k
    simp
  | cons r rs ih =>
    obtain ⟨cover, keys⟩ := ih (h.add r)
    refine ⟨cover, ?_⟩
    intro k
    rw [List.foldl_cons, keys, show (w.add r).keys = Text.insertSorted r.key w.keys from rfl, Text.mem_insertSorted]
    simp only [List.mem_cons, exists_eq_or_imp, eq_comm (a := k)]
    exact or_left_comm.trans or_assoc.symm

theorem mem_keys_ofRecords {rs : List Record} {k : Text} : k ∈ (ofRecords rs).keys ↔ ∃ r ∈ rs, r.key = k := by
  obtain ⟨-, keys⟩ := foldl_add KeysCover.empty rs
  exact (keys k).trans (or_iff_left List.not_mem_nil)

/-- A package version is on a list of records exactly if one of them has its key. -/
theorem flags_ofRecords {rs : List Record} {n v : Text} :
    (ofRecords rs).flags n v = true ↔ ∃ r ∈ rs, r.key = Record.key ⟨n, v⟩ := by
  obtain ⟨cover, -⟩ := foldl_add KeysCover.empty rs
  rw [flags, Bool.or_eq_true, List.contains_iff_mem, List.contains_iff_mem, ← mem_keys_ofRecords]
  exact or_iff_left_of_imp (cover n v)

theorem flags_parse {t n v : Text} :
    (parse t).flags n v = true ↔ ∃ r ∈ Record.readAll t, r.key = Record.key ⟨n, v⟩ :=
  flags_ofRecords

/-- A longer list flags what the shorter one does. -/
theorem flags_parse_append {s t n v : Text} (h : (parse s).flags n v = true) :
    (parse (s ++ '\n' :: t)).flags n v = true := by
  obtain ⟨r, hr, hk⟩ := flags_parse.1 h
  rw [flags_parse, Record.readAll_append rfl]
  exact ⟨r, List.mem_append_left _ hr, hk⟩

/-- No list has a name that starts with a blank. -/
theorem not_flags_blank (t : Text) {c : Char} (hc : Text.isBlank c = true) (n v : Text) :
    (parse t).flags (c :: n) v = false := by
  apply Bool.eq_false_iff.2
  intro h
  obtain ⟨r, hr, hk⟩ := flags_parse.1 h
  obtain ⟨d, m, hd, solid⟩ := (Record.isListable_of_mem hr).exists_name
  rw [Record.key, hd, Record.key] at hk
  obtain rfl := (List.cons.inj hk).1
  rw [hc] at solid
  cases solid

/-- The empty name is flagged only through a record whose name starts with a colon. -/
theorem flags_nil {t v : Text} :
    (parse t).flags [] v = true ↔ ∃ n u, v = n ++ ':' :: u ∧ ⟨':' :: n, u⟩ ∈ Record.readAll t := by
  rw [flags_parse]
  constructor
  · rintro ⟨⟨name, u⟩, hr, hk⟩
    obtain ⟨d, n, rfl, -⟩ := (Record.isListable_of_mem hr).exists_name
    obtain ⟨rfl, rest⟩ := List.cons.inj hk
    exact ⟨n, u, rest.symm, hr⟩
  · rintro ⟨n, u, rfl, hr⟩
    exact ⟨_, hr, rfl⟩

end Watchlist

end DependencyAudit
