import DependencyAudit.Proofs.Lookup
import Mathlib.Data.List.Dedup

namespace DependencyAudit

theorem Text.nodup_of_pairwise {ts : List Text} (h : ts.Pairwise (· < ·)) : ts.Nodup := by
  apply h.imp
  rintro t u before rfl
  exact List.lt_irrefl t before

theorem Text.lt_of_not_lt {t u : Text} (other : t ≠ u) (behind : ¬ t < u) : u < t := by
  by_contra h
  exact other (List.le_antisymm (List.not_lt.1 h) (List.not_lt.1 behind))

theorem Text.pairwise_insertSorted {t : Text} {us : List Text} (h : us.Pairwise (· < ·)) :
    (insertSorted t us).Pairwise (· < ·) := by
  induction us with
  | nil => exact List.pairwise_singleton ..
  | cons u us ih =>
    obtain ⟨first, rest⟩ := List.pairwise_cons.1 h
    rw [insertSorted]
    split
    · exact h
    · rename_i other
      split
      · rename_i before
        refine List.pairwise_cons.2 ⟨?_, h⟩
        intro v hv
        rcases List.mem_cons.1 hv with rfl | hv
        · exact before
        · exact List.lt_trans before (first v hv)
      · rename_i behind
        have after : u < t := lt_of_not_lt other behind
        refine List.pairwise_cons.2 ⟨?_, ih rest⟩
        intro v hv
        rcases mem_insertSorted.1 hv with rfl | hv
        · exact after
        · exact first v hv

namespace Record

/-- A key is cut into the one record with it whose version has no colon. -/
theorem key_eq_iff {r : Record} (h : ':' ∉ r.version) {k : Text} :
    r.key = k ↔ Text.cutLast ':' k = some (r.name, r.version) := by
  rw [Text.cutLast_eq_some, key, and_iff_left h]
  exact eq_comm

theorem eq_of_key {r s : Record} (hr : ':' ∉ r.version) (hs : ':' ∉ s.version) (h : r.key = s.key) : r = s := by
  have cut := (key_eq_iff hr).1 h
  rw [(key_eq_iff hs).1 rfl] at cut
  obtain ⟨name, version⟩ := Prod.mk.inj (Option.some.inj cut)
  exact Record.ext name.symm version.symm

end Record

namespace Watchlist

/-- The records that the listings hold. -/
def records (w : Watchlist) : List Record := w.listings.flatMap fun l => l.versions.map fun v => ⟨l.name, v⟩

theorem mem_records {w : Watchlist} {r : Record} :
    r ∈ w.records ↔ ∃ l ∈ w.listings, l.name = r.name ∧ r.version ∈ l.versions := by
  rw [records, List.mem_flatMap]
  refine exists_congr fun l => and_congr_right fun _ => ?_
  rw [List.mem_map]
  constructor
  · rintro ⟨v, hv, rfl⟩
    exact ⟨rfl, hv⟩
  · rintro ⟨hn, hv⟩
    exact ⟨r.version, hv, Record.ext hn rfl⟩

theorem length_records (w : Watchlist) : w.records.length = w.versionCount := by
  obtain ⟨listings, keys⟩ := w
  induction listings with
  | nil => rfl
  | cons l ls ih =>
    have rest : (records ⟨ls, keys⟩).length = ls.foldr (fun l n => l.versions.length + n) 0 := ih
    rw [records] at rest
    simp only [records, versionCount, List.flatMap_cons, List.length_append, List.length_map, List.foldr_cons, rest]

/-- A listing after one version is added is an old one, or that of the version's name with the version put in. -/
theorem mem_addListing {name version : Text} {ls : List Listing} {l : Listing} (h : l ∈ addListing name version ls) :
    l ∈ ls ∨ l.name = name ∧ ∃ vs, (vs = [] ∨ ⟨name, vs⟩ ∈ ls) ∧ l.versions = Text.insertSorted version vs := by
  induction ls with
  | nil =>
    obtain rfl := List.mem_singleton.1 h
    exact .inr ⟨rfl, [], .inl rfl, rfl⟩
  | cons m ls ih =>
    rw [addListing] at h
    split at h
    · rename_i same
      rcases List.mem_cons.1 h with rfl | h
      · exact .inr ⟨rfl, m.versions, .inr (by rw [same]; exact List.mem_cons_self), rfl⟩
      · exact .inl (List.mem_cons_of_mem m h)
    · split at h
      · rcases List.mem_cons.1 h with rfl | h
        · exact .inr ⟨rfl, [], .inl rfl, rfl⟩
        · exact .inl h
      · rcases List.mem_cons.1 h with rfl | h
        · exact .inl List.mem_cons_self
        · rcases ih h with h | ⟨hn, vs, hvs, hv⟩
          · exact .inl (List.mem_cons_of_mem m h)
          · exact .inr ⟨hn, vs, hvs.imp_right (List.mem_cons_of_mem m), hv⟩

/-- Everything in a watchlist stands in increasing order, and no listing is empty. -/
structure InOrder (w : Watchlist) : Prop where
  names : (w.listings.map (·.name)).Pairwise (· < ·)
  versions : ∀ l ∈ w.listings, l.versions.Pairwise (· < ·)
  listed : ∀ l ∈ w.listings, l.versions ≠ []
  keys : w.keys.Pairwise (· < ·)

theorem InOrder.empty : empty.InOrder where
  names := List.Pairwise.nil
  versions _ h := absurd h List.not_mem_nil
  listed _ h := absurd h List.not_mem_nil
  keys := List.Pairwise.nil

theorem pairwise_names_addListing {name version : Text} {ls : List Listing}
    (h : (ls.map (·.name)).Pairwise (· < ·)) : ((addListing name version ls).map (·.name)).Pairwise (· < ·) := by
  induction ls with
  | nil => exact List.pairwise_singleton ..
  | cons m ls ih =>
    obtain ⟨first, rest⟩ := List.pairwise_cons.1 h
    rw [addListing]
    split
    · rename_i same
      rw [same]
      exact h
    · rename_i other
      split
      · rename_i before
        refine List.pairwise_cons.2 ⟨?_, h⟩
        intro n hn
        rcases List.mem_cons.1 hn with rfl | hn
        · exact before
        · exact List.lt_trans before (first n hn)
      · rename_i behind
        have after : m.name < name := Text.lt_of_not_lt other behind
        refine List.pairwise_cons.2 ⟨?_, ih rest⟩
        intro n hn
        obtain ⟨l, hl, rfl⟩ := List.mem_map.1 hn
        rcases mem_addListing hl with hl | ⟨same, -⟩
        · exact first _ (List.mem_map_of_mem hl)
        · exact same ▸ after

theorem InOrder.add {w : Watchlist} (h : w.InOrder) (r : Record) : (w.add r).InOrder where
  names := pairwise_names_addListing h.names
  versions l hl := by
    rcases mem_addListing hl with hl | ⟨_, vs, hvs, hv⟩
    · exact h.versions l hl
    · rw [hv]
      apply Text.pairwise_insertSorted
      rcases hvs with rfl | hvs
      · exact List.Pairwise.nil
      · exact h.versions _ hvs
  listed l hl := by
    rcases mem_addListing hl with hl | ⟨_, vs, _, hv⟩
    · exact h.listed l hl
    · rw [hv]
      exact List.ne_nil_of_mem (Text.mem_insertSorted.2 (.inl rfl))
  keys := Text.pairwise_insertSorted h.keys

theorem InOrder.ofRecords (rs : List Record) : (ofRecords rs).InOrder := by
  have all (w : Watchlist) (h : w.InOrder) : (rs.foldl Watchlist.add w).InOrder := by
    induction rs generalizing w with
    | nil => exact h
    | cons r rs ih => exact ih (w.add r) (h.add r)
  exact all Watchlist.empty InOrder.empty

theorem mem_records_add {w : Watchlist} {r s : Record} : r ∈ (w.add s).records ↔ r = s ∨ r ∈ w.records := by
  obtain ⟨listings, keys⟩ := w
  rw [mem_records, mem_records]
  simp only [add]
  have opened : s.name = r.name ∧ r.version ∈ [s.version] ↔ r = s := by
    rw [List.mem_singleton, Record.ext_iff, eq_comm (a := r.name)]
  induction listings with
  | nil => exact (List.exists_mem_cons_iff ..).trans (or_congr_left opened)
  | cons m ls ih =>
    rw [addListing]
    split
    · rename_i same
      have put : s.name = r.name ∧ r.version ∈ Text.insertSorted s.version m.versions ↔
          r = s ∨ m.name = r.name ∧ r.version ∈ m.versions := by
        rw [Text.mem_insertSorted, Record.ext_iff, ← same, eq_comm (a := r.name), and_or_left]
      simp only [List.mem_cons, exists_eq_or_imp, put, or_assoc]
    · split
      · exact (List.exists_mem_cons_iff ..).trans (or_congr_left opened)
      · rw [List.exists_mem_cons_iff, List.exists_mem_cons_iff]
        exact (or_congr_right ih).trans or_left_comm

theorem mem_records_ofRecords {rs : List Record} {r : Record} : r ∈ (ofRecords rs).records ↔ r ∈ rs := by
  have all (w : Watchlist) : r ∈ (rs.foldl Watchlist.add w).records ↔ r ∈ rs ∨ r ∈ w.records := by
    induction rs generalizing w with
    | nil => exact (or_iff_right List.not_mem_nil).symm
    | cons s rs ih =>
      rw [List.foldl_cons, ih, mem_records_add, List.mem_cons]
      exact or_left_comm.trans or_assoc.symm
  exact (all Watchlist.empty).trans (or_iff_left List.not_mem_nil)

namespace InOrder

variable {w : Watchlist} (h : w.InOrder)

include h

theorem nodup_records : w.records.Nodup := by
  rw [records, List.nodup_flatMap]
  constructor
  · intro l hl
    have versions : l.versions.Nodup := Text.nodup_of_pairwise (h.versions l hl)
    exact versions.map fun v u same => congrArg Record.version same
  · apply (List.pairwise_map.1 h.names).imp
    intro l m before r hl hm
    obtain ⟨v, _, rfl⟩ := List.mem_map.1 hl
    obtain ⟨u, _, same⟩ := List.mem_map.1 hm
    have names : m.name = l.name := congrArg Record.name same
    exact List.lt_irrefl _ (names ▸ before)

theorem mem_versionsOf {n v : Text} : v ∈ w.versionsOf n ↔ ⟨n, v⟩ ∈ w.records := by
  obtain ⟨listings, keys⟩ := w
  have names : (listings.map (·.name)).Pairwise (· < ·) := h.names
  clear h
  rw [mem_records]
  induction listings with
  | nil => simp [versionsOf]
  | cons l ls ih =>
    obtain ⟨first, rest⟩ := List.pairwise_cons.1 names
    rw [versionsOf_cons, List.exists_mem_cons_iff]
    -- The names increase, so that no later listing has the name of this one.
    by_cases asked : l.name = n
    · have later : ¬ ∃ m ∈ ls, m.name = n ∧ v ∈ m.versions := by
        rintro ⟨m, hm, hn, _⟩
        have before : l.name < m.name := first _ (List.mem_map_of_mem hm)
        rw [hn, asked] at before
        exact List.lt_irrefl n before
      rw [if_pos asked, or_iff_left later, and_iff_right asked]
    · have here : ¬ (l.name = n ∧ v ∈ l.versions) := fun found => asked found.1
      rw [if_neg asked, or_iff_right here]
      exact ih rest

theorem mem_names {n : Text} : n ∈ w.listings.map (·.name) ↔ ∃ v, v ∈ w.versionsOf n := by
  simp only [h.mem_versionsOf, mem_records]
  rw [List.mem_map]
  constructor
  · rintro ⟨l, hl, rfl⟩
    obtain ⟨v, hv⟩ := List.exists_mem_of_ne_nil _ (h.listed l hl)
    exact ⟨v, l, hl, rfl, hv⟩
  · rintro ⟨v, l, hl, named, _⟩
    exact ⟨l, hl, named⟩

end InOrder

/-- Both views of a watchlist hold the same records, each of them once. -/
structure Agrees (w : Watchlist) (rs : List Record) : Prop where
  records : ∀ r, r ∈ w.records ↔ r ∈ rs
  lookup : ∀ n v, v ∈ w.versionsOf n ↔ ⟨n, v⟩ ∈ w.records
  keys : ∀ k, k ∈ w.keys ↔ ∃ r ∈ w.records, r.key = k
  unique : ∀ k ∈ w.keys, ∃! r, r ∈ w.records ∧ r.key = k
  keys_nodup : w.keys.Nodup
  names_nodup : (w.listings.map (·.name)).Nodup
  versions_nodup : ∀ l ∈ w.listings, l.versions.Nodup
  versions_ne_nil : ∀ l ∈ w.listings, l.versions ≠ []
  versionCount : w.keys.length = w.versionCount
  packageCount : w.packageCount = (rs.map (·.name)).dedup.length
  isPopulated : w.isPopulated = true ↔ rs ≠ []

/-- Records whose versions hold no colon are kept apart by their keys, so that the views agree on them. -/
theorem agrees_ofRecords {rs : List Record} (solid : ∀ r ∈ rs, ':' ∉ r.version) : (ofRecords rs).Agrees rs := by
  have ordered := InOrder.ofRecords rs
  have held (r : Record) : r ∈ (ofRecords rs).records ↔ r ∈ rs := mem_records_ofRecords
  have listed (n : Text) : n ∈ (ofRecords rs).listings.map (·.name) ↔ ∃ v, ⟨n, v⟩ ∈ rs := by
    simp only [ordered.mem_names, ordered.mem_versionsOf, held]
  have keyed (k : Text) : k ∈ (ofRecords rs).keys ↔ ∃ r ∈ (ofRecords rs).records, r.key = k := by
    simp only [held]
    exact mem_keys_ofRecords
  have apart : ∀ r ∈ (ofRecords rs).records, ∀ s ∈ (ofRecords rs).records, r.key = s.key → r = s := by
    intro r hr s hs
    exact Record.eq_of_key (solid r ((held r).1 hr)) (solid s ((held s).1 hs))
  have keys_nodup : (ofRecords rs).keys.Nodup := Text.nodup_of_pairwise ordered.keys
  have names_nodup : ((ofRecords rs).listings.map (·.name)).Nodup := Text.nodup_of_pairwise ordered.names
  constructor
  case records => exact held
  case lookup =>
    intro n v
    exact ordered.mem_versionsOf
  case keys => exact keyed
  case unique =>
    intro k hk
    obtain ⟨r, hr, rfl⟩ := (keyed k).1 hk
    exact ⟨r, ⟨hr, rfl⟩, fun s hs => apart s hs.1 r hr hs.2⟩
  case keys_nodup => exact keys_nodup
  case names_nodup => exact names_nodup
  case versions_nodup =>
    intro l hl
    exact Text.nodup_of_pairwise (ordered.versions l hl)
  case versions_ne_nil => exact ordered.listed
  case versionCount =>
    have once : ((ofRecords rs).records.map Record.key).Nodup := by
      rw [List.nodup_map_iff_inj_on ordered.nodup_records]
      exact apart
    have same : ((ofRecords rs).keys).Perm ((ofRecords rs).records.map Record.key) := by
      rw [List.perm_ext_iff_of_nodup keys_nodup once]
      intro k
      rw [keyed, List.mem_map]
    rw [same.length_eq, List.length_map, length_records]
  case packageCount =>
    have same : ((ofRecords rs).listings.map (·.name)).Perm (rs.map (·.name)).dedup := by
      rw [List.perm_ext_iff_of_nodup names_nodup (List.nodup_dedup _)]
      intro n
      rw [listed, List.mem_dedup, List.mem_map]
      constructor
      · rintro ⟨v, hv⟩
        exact ⟨⟨n, v⟩, hv, rfl⟩
      · rintro ⟨r, hr, rfl⟩
        exact ⟨r.version, hr⟩
    rw [packageCount, ← same.length_eq, List.length_map]
  case isPopulated =>
    rw [isPopulated, Bool.not_eq_true', List.isEmpty_eq_false_iff]
    constructor
    · intro some_listing
      obtain ⟨l, hl⟩ := List.exists_mem_of_ne_nil _ some_listing
      obtain ⟨v, hv⟩ := (listed l.name).1 (List.mem_map_of_mem hl)
      exact List.ne_nil_of_mem hv
    · intro some_record
      obtain ⟨r, hr⟩ := List.exists_mem_of_ne_nil _ some_record
      obtain ⟨l, hl, -⟩ := List.mem_map.1 ((listed r.name).2 ⟨r.version, hr⟩)
      exact List.ne_nil_of_mem hl

/-- A list that was read flags what is cut, at the last colon of its key, into a record of the list. Its two views
never drift apart. -/
theorem flags_parse_iff_cut (t : Text) :
    (∀ n v, (parse t).flags n v = true ↔
      ∃ r ∈ Record.readAll t, Text.cutLast ':' (n ++ ':' :: v) = some (r.name, r.version)) ∧
    (∀ n v, ':' ∉ v → ((parse t).flags n v = true ↔ ⟨n, v⟩ ∈ Record.readAll t)) ∧
    (parse t).Agrees (Record.readAll t) := by
  have cut (n v : Text) : (parse t).flags n v = true ↔
      ∃ r ∈ Record.readAll t, Text.cutLast ':' (n ++ ':' :: v) = some (r.name, r.version) := by
    rw [flags_parse]
    refine exists_congr fun r => and_congr_right fun hr => ?_
    exact Record.key_eq_iff ((Record.isListable_of_mem hr).version_solid)
  refine ⟨cut, ?_, agrees_ofRecords fun r hr => (Record.isListable_of_mem hr).version_solid⟩
  intro n v solid
  rw [cut, Text.cutLast_append solid]
  constructor
  · rintro ⟨r, hr, same⟩
    obtain ⟨rfl, rfl⟩ := Prod.mk.inj (Option.some.inj same)
    exact hr
  · intro hr
    exact ⟨⟨n, v⟩, hr, rfl⟩

/-- A name with a colon is found as it is listed, and its key under a shorter name, too. -/
theorem flags_parse_colon :
    let w := parse "foo:bar: 1.0.0\nfoo: 2".toList
    ':' ∉ "1.0.0".toList ∧ w.flags "foo:bar".toList "1.0.0".toList = true ∧
      w.flags "foo".toList "bar:1.0.0".toList = true ∧ w.keys.length = w.versionCount := by
  intro w
  obtain ⟨cut, exact_version, agree⟩ := flags_parse_iff_cut "foo:bar: 1.0.0\nfoo: 2".toList
  have solid : ':' ∉ "1.0.0".toList := by decide
  refine ⟨solid, ?_, ?_, agree.versionCount⟩
  · exact (exact_version _ _ solid).2 (by decide)
  · exact (cut _ _).2 ⟨⟨"foo:bar".toList, "1.0.0".toList⟩, by decide, by decide⟩

end Watchlist

end DependencyAudit
