import DependencyAudit.Proofs.TwoViews
import Mathlib.Data.Finset.Dedup
import Mathlib.Data.Finset.Lattice.Basic

namespace DependencyAudit

/-- In increasing order a list is its set. -/
theorem Text.eq_of_pairwise {us vs : List Text} (hu : us.Pairwise (· < ·)) (hv : vs.Pairwise (· < ·))
    (h : ∀ t, t ∈ us ↔ t ∈ vs) : us = vs := by
  have perm : us.Perm vs := by
    rw [List.perm_ext_iff_of_nodup (nodup_of_pairwise hu) (nodup_of_pairwise hv)]
    exact h
  exact perm.eq_of_pairwise (fun t u _ _ before behind => absurd before (List.lt_asymm behind)) hu hv

/-- Lists put together as one, each from a line of its own on. -/
inductive Text.Joined : List Text → Text → Prop
  | single (t : Text) : Joined [t] t
  | cons {ts : List Text} {b rest : Text} (t : Text) (ends : IsBreak b) (behind : Joined ts rest) :
      Joined (t :: ts) (t ++ (b ++ rest))

theorem Record.readAll_joined {ts : List Text} {t : Text} (h : Text.Joined ts t) : readAll t = ts.flatMap readAll := by
  induction h with
  | single t => rw [List.flatMap_singleton]
  | cons t ends behind ih => rw [readAll_append_break ends, ih, List.flatMap_cons]

namespace Watchlist

namespace InOrder

variable {w w' : Watchlist} (h : w.InOrder)

include h

theorem versionsOf_name {l : Listing} (hl : l ∈ w.listings) : w.versionsOf l.name = l.versions := by
  obtain ⟨listings, keys⟩ := w
  have names : (listings.map (·.name)).Pairwise (· < ·) := h.names
  have listed : l ∈ listings := hl
  clear h hl
  induction listings with
  | nil => exact absurd listed List.not_mem_nil
  | cons m ms ih =>
    obtain ⟨first, rest⟩ := List.pairwise_cons.1 names
    rw [versionsOf_cons]
    rcases List.mem_cons.1 listed with rfl | later
    · rw [if_pos rfl]
    · have before : m.name < l.name := first _ (List.mem_map_of_mem later)
      have other : m.name ≠ l.name := fun same => List.lt_irrefl _ (same ▸ before)
      rw [if_neg other]
      exact ih rest later

theorem pairwise_versionsOf (n : Text) : (w.versionsOf n).Pairwise (· < ·) := by
  rw [versionsOf]
  cases found : w.listings.find? (·.name = n) with
  | none => exact List.Pairwise.nil
  | some l => exact h.versions l (List.mem_of_find?_eq_some found)

theorem listings_eq : w.listings = (w.listings.map (·.name)).map fun n => ⟨n, w.versionsOf n⟩ := by
  have own : ∀ l ∈ w.listings, (⟨l.name, w.versionsOf l.name⟩ : Listing) = l := by
    intro l hl
    rw [h.versionsOf_name hl]
  rw [List.map_map]
  exact ((List.map_congr_left own).trans (List.map_id _)).symm

/-- Watchlists with the same versions for every name and the same keys are the same. -/
theorem ext (h' : w'.InOrder) (versions : ∀ n v, v ∈ w.versionsOf n ↔ v ∈ w'.versionsOf n)
    (keys : ∀ k, k ∈ w.keys ↔ k ∈ w'.keys) : w = w' := by
  have same_versions (n : Text) : w.versionsOf n = w'.versionsOf n :=
    Text.eq_of_pairwise (h.pairwise_versionsOf n) (h'.pairwise_versionsOf n) (versions n)
  have same_names : w.listings.map (·.name) = w'.listings.map (·.name) := by
    apply Text.eq_of_pairwise h.names h'.names
    intro n
    rw [h.mem_names, h'.mem_names, same_versions]
  have listings : w.listings = w'.listings := by
    rw [h.listings_eq, h'.listings_eq, same_names]
    simp only [same_versions]
  exact Watchlist.ext listings (Text.eq_of_pairwise h.keys h'.keys keys)

end InOrder

theorem mem_versionsOf_ofRecords {rs : List Record} {n v : Text} : v ∈ (ofRecords rs).versionsOf n ↔ ⟨n, v⟩ ∈ rs := by
  rw [(InOrder.ofRecords rs).mem_versionsOf, mem_records_ofRecords]

/-- A watchlist is the set of its records: neither their order nor how often they are given counts. -/
theorem ofRecords_eq_iff {rs ss : List Record} : ofRecords rs = ofRecords ss ↔ ∀ r, r ∈ rs ↔ r ∈ ss := by
  constructor
  · intro same r
    rw [← mem_records_ofRecords, same, mem_records_ofRecords]
  · intro same
    apply (InOrder.ofRecords rs).ext (InOrder.ofRecords ss)
    · intro n v
      rw [mem_versionsOf_ofRecords, mem_versionsOf_ofRecords, same]
    · intro k
      simp only [mem_keys_ofRecords, same]

/-- The first watchlist is made of the other two: its keys are those of either, and so are the versions of every name. -/
structure IsUnion (w u v : Watchlist) : Prop where
  keys : w.keys.toFinset = u.keys.toFinset ∪ v.keys.toFinset
  names : (w.listings.map (·.name)).toFinset = (u.listings.map (·.name)).toFinset ∪ (v.listings.map (·.name)).toFinset
  versions : ∀ n, (w.versionsOf n).toFinset = (u.versionsOf n).toFinset ∪ (v.versionsOf n).toFinset

/-- A union flags what either part flags, by whichever view. -/
theorem IsUnion.flags_eq {w u v : Watchlist} (h : w.IsUnion u v) (name version : Text) :
    w.flags name version = (u.flags name version || v.flags name version) := by
  have keys (k : Text) : k ∈ w.keys ↔ k ∈ u.keys ∨ k ∈ v.keys := by
    have mem := congrArg (k ∈ ·) h.keys
    simpa using mem
  have versions (x : Text) : x ∈ w.versionsOf name ↔ x ∈ u.versionsOf name ∨ x ∈ v.versionsOf name := by
    have mem := congrArg (x ∈ ·) (h.versions name)
    simpa using mem
  apply Bool.eq_iff_iff.2
  simp only [flags, Bool.or_eq_true, List.contains_iff_mem, keys, versions]
  exact or_or_or_comm

theorem isUnion_ofRecords (rs ss : List Record) : (ofRecords (rs ++ ss)).IsUnion (ofRecords rs) (ofRecords ss) where
  keys := by
    ext k
    simp [mem_keys_ofRecords, or_and_right, exists_or]
  names := by
    ext n
    simp [(InOrder.ofRecords _).mem_names, mem_versionsOf_ofRecords, exists_or]
  versions n := by
    ext v
    simp [mem_versionsOf_ofRecords]

theorem parse_eq_iff {t u : Text} : parse t = parse u ↔ ∀ r, r ∈ Record.readAll t ↔ r ∈ Record.readAll u :=
  ofRecords_eq_iff

/-- The watchlist of two lists, the second from a line of its own on, is the union of both, and flags what either flags.
So a watchlist is no more than the set of its records: neither the order of lines, nor how often a record is given, nor
the order and the number in which whole lists are put together counts. -/
theorem parse_joined :
    (∀ b s t, Text.IsBreak b → (parse (s ++ (b ++ t))).IsUnion (parse s) (parse t) ∧
      ∀ n v, (parse (s ++ (b ++ t))).flags n v = ((parse s).flags n v || (parse t).flags n v)) ∧
    (∀ t u, parse t = parse u ↔ ∀ r, r ∈ Record.readAll t ↔ r ∈ Record.readAll u) ∧
    (∀ t u, (Text.lines t).Perm (Text.lines u) → parse t = parse u) ∧
    (∀ ts us t u, Text.Joined ts t → Text.Joined us u → (∀ x, x ∈ ts ↔ x ∈ us) → parse t = parse u) ∧
    ∀ b t, Text.IsBreak b → parse (t ++ (b ++ t)) = parse t := by
  have joined (ts us : List Text) (t u : Text) (ht : Text.Joined ts t) (hu : Text.Joined us u)
      (same : ∀ x, x ∈ ts ↔ x ∈ us) : parse t = parse u := by
    apply parse_eq_iff.2
    intro r
    rw [Record.readAll_joined ht, Record.readAll_joined hu, List.mem_flatMap, List.mem_flatMap]
    simp only [same]
  refine ⟨?_, fun t u => parse_eq_iff, ?_, joined, ?_⟩
  · intro b s t ends
    have union : (parse (s ++ (b ++ t))).IsUnion (parse s) (parse t) := by
      rw [parse, Record.readAll_append_break ends]
      exact isUnion_ofRecords (Record.readAll s) (Record.readAll t)
    exact ⟨union, union.flags_eq⟩
  · intro t u perm
    have records : (Record.readAll t).Perm (Record.readAll u) := perm.filterMap Record.ofLine?
    apply parse_eq_iff.2
    intro r
    exact records.mem_iff
  · intro b t ends
    apply joined [t, t] [t] _ t (.cons t ends (.single t)) (.single t)
    simp

/-- A carriage return and a line feed that meet where the lists are put together, and a key that two names share. -/
theorem parse_joined_fused :
    let s : Text := "foo:bar: 1\r".toList
    let t : Text := "\nfoo: 2".toList
    Text.IsBreak ['\n'] ∧ Text.IsBreak ['\r'] ∧ (parse (s ++ (['\n'] ++ t))).IsUnion (parse s) (parse t) ∧
      (parse (s ++ (['\n'] ++ t))).flags "foo".toList "bar:1".toList = true ∧
      parse (t ++ (['\r'] ++ s)) = parse (s ++ (['\n'] ++ t)) ∧ parse (s ++ (['\n'] ++ s)) = parse s ∧
      parse "b: 1\na: 2".toList = parse "a: 2\u2028b: 1".toList := by
  intro s t
  obtain ⟨union, -, permuted, joined, doubled⟩ := parse_joined
  have feed : Text.IsBreak ['\n'] := .single rfl
  have ret : Text.IsBreak ['\r'] := .single rfl
  obtain ⟨whole, flagged⟩ := union ['\n'] s t feed
  have colliding : (parse s).flags "foo".toList "bar:1".toList = true := by decide
  have swapped : (Text.lines "b: 1\na: 2".toList).Perm (Text.lines "a: 2\u2028b: 1".toList) := by decide
  refine ⟨feed, ret, whole, ?_, ?_, doubled ['\n'] s feed, permuted _ _ swapped⟩
  · rw [flagged, colliding, Bool.true_or]
  · apply joined [t, s] [s, t] _ _ (.cons t ret (.single s)) (.cons s feed (.single t))
    intro x
    rw [List.mem_pair, List.mem_pair, or_comm]

end Watchlist

end DependencyAudit
