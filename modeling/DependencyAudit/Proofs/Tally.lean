import DependencyAudit.Proofs.Merging

namespace DependencyAudit.Collector

variable {ε α : Type}

/-- A call on a collector. The findings of a merge are handed over one by one: a file, or a finding of a file, may fail to
be produced. -/
inductive Call (ε : Type) where
  | merge (files : List (Except ε (List (Except ε Finding))))
  | flags (name version : Text)
  | statistics

inductive Answer (ε : Type) where
  | merged (result : Except ε (List Finding))
  | flagged (listed : Bool)
  | told (s : Statistics)

/-- A file that fails to be produced is like one whose first finding fails to be. -/
def opened : Except ε (List (Except ε Finding)) → List (Except ε Finding)
  | .ok fs => fs
  | .error e => [.error e]

/-- The answer to a call, and the collector after it. -/
def perform (c : Collector) : Call ε → Answer ε × Collector
  | .merge files => (.merged (c.merge (files.map opened)).result, (c.merge (files.map opened)).collector)
  | .flags name version => (.flagged (c.flags name version), c)
  | .statistics => (.told c.statistics, c)

def after (c : Collector) (calls : List (Call ε)) : Collector := calls.foldl (fun d call => (d.perform call).2) c

structure Exchange (ε : Type) where
  call : Call ε
  answer : Answer ε

/-- Calls one after the other with their answers. -/
def exchanges (c : Collector) : List (Call ε) → List (Exchange ε)
  | [] => []
  | call :: calls => ⟨call, (c.perform call).1⟩ :: (c.perform call).2.exchanges calls

namespace Exchange

/-- The findings that were handed to a merge, if it succeeded. -/
def handed : Exchange ε → List Finding
  | ⟨.merge files, .merged (.ok _)⟩ => (files.flatMap opened).filterMap Except.toOption
  | _ => []

/-- The findings that a merge gave back. -/
def returned : Exchange ε → List Finding
  | ⟨_, .merged (.ok fs)⟩ => fs
  | _ => []

end Exchange

/-- What a merge gives: the distinct findings of all that are produced, or the first failure to produce one. -/
inductive Yields : List (Except ε Finding) → Except ε (List Finding) → Prop
  | distinct (all : List Finding) : Yields (all.map .ok) (.ok (Finding.distinct all))
  | failure (before : List Finding) (e : ε) (rest : List (Except ε Finding)) :
    Yields (before.map .ok ++ .error e :: rest) (.error e)

/-- What holds after any calls: the counters are those of the merges that succeeded, and what was not dropped was given
back. -/
structure Balanced (w : Watchlist) (xs : List (Exchange ε)) (c : Collector) : Prop where
  watchlist : c.watchlist = w
  merged : c.merged = (xs.flatMap Exchange.handed).length
  dropped : c.dropped + (xs.flatMap Exchange.returned).length = c.merged

section Merge

theorem length_distinct_le (fs : List Finding) : (Finding.distinct fs).length ≤ fs.length := by
  rw [Finding.distinct_eq_firsts]
  exact (firsts_sublist Finding.key fs).length_le

theorem exists_map_ok (xs : List (Except ε α)) :
    (∃ as : List α, xs = as.map .ok) ∨ ∃ (as : List α) (e : ε) (rest : List (Except ε α)), xs = as.map .ok ++ .error e :: rest := by
  induction xs with
  | nil => exact .inl ⟨[], rfl⟩
  | cons x xs ih =>
    cases x with
    | error e => exact .inr ⟨[], e, xs, rfl⟩
    | ok a =>
      obtain ⟨as, all⟩ | ⟨as, e, rest, cut⟩ := ih
      · exact .inl ⟨a :: as, by rw [all]; rfl⟩
      · exact .inr ⟨a :: as, e, rest, by rw [cut]; rfl⟩

theorem mapM_error (as : List α) (e : ε) (rest : List (Except ε α)) :
    (as.map Except.ok ++ Except.error e :: rest).mapM id = .error e := by
  rw [List.mapM_append, mapM_map_ok]
  rfl

variable (c : Collector)

/-- A merge that succeeds counts all that it was handed and what it dropped of it; one that fails counts nothing. -/
theorem merge_cases (files : List (List (Except ε Finding))) :
    (∃ all : List Finding, files.flatten = all.map .ok ∧ (c.merge files).result = .ok (Finding.distinct all) ∧
      (c.merge files).collector =
        ⟨c.watchlist, c.merged + all.length, c.dropped + (all.length - (Finding.distinct all).length)⟩) ∨
    ∃ (before : List Finding) (e : ε) (rest : List (Except ε Finding)), files.flatten = before.map .ok ++ .error e :: rest ∧
      (c.merge files).result = .error e ∧ (c.merge files).collector = c := by
  obtain ⟨all, whole⟩ | ⟨before, e, rest, cut⟩ := exists_map_ok files.flatten
  · have produced : files.flatten.mapM id = .ok all := by rw [whole, mapM_map_ok]
    exact .inl ⟨all, whole, by rw [merge, produced], by rw [merge, produced]⟩
  · have failed : files.flatten.mapM id = .error e := by rw [cut, mapM_error]
    exact .inr ⟨before, e, rest, cut, by rw [merge, failed], by rw [merge, failed]⟩

theorem yields_merge (files : List (List (Except ε Finding))) : Yields files.flatten (c.merge files).result := by
  obtain ⟨all, whole, result, -⟩ | ⟨before, e, rest, cut, result, -⟩ := merge_cases c files
  · rw [whole, result]
    exact .distinct all
  · rw [cut, result]
    exact .failure before e rest

theorem merge_result (d : Collector) (files : List (List (Except ε Finding))) :
    (c.merge files).result = (d.merge files).result := by
  rw [merge, merge]
  cases files.flatten.mapM id <;> rfl

/-- Only a merge that succeeds changes a collector. -/
theorem perform_unchanged {call : Call ε} (h : ∀ fs, (c.perform call).1 ≠ .merged (.ok fs)) : (c.perform call).2 = c := by
  cases call with
  | merge files =>
    obtain ⟨all, -, result, -⟩ | ⟨before, e, rest, -, -, kept⟩ := merge_cases c (files.map opened)
    · have succeeded : (c.perform (.merge files)).1 = .merged (.ok (Finding.distinct all)) := congrArg Answer.merged result
      exact absurd succeeded (h _)
    · exact kept
  | flags name version => rfl
  | statistics => rfl

end Merge

section Run

variable {w : Watchlist} {c : Collector} {xs : List (Exchange ε)}

/-- What a call adds to the counters. -/
theorem perform_counts (c : Collector) (call : Call ε) :
    let x : Exchange ε := ⟨call, (c.perform call).1⟩
    let d := (c.perform call).2
    d.watchlist = c.watchlist ∧ d.merged = c.merged + x.handed.length ∧
      d.dropped + x.returned.length = c.dropped + x.handed.length := by
  intro x d
  cases call with
  | merge files =>
    obtain ⟨all, whole, result, counted⟩ | ⟨before, e, rest, -, result, kept⟩ := merge_cases c (files.map opened)
    · have produced : (files.flatMap opened).filterMap Except.toOption = all := by
        rw [List.flatMap_def, whole, List.filterMap_map]
        exact List.filterMap_some
      have handed : x.handed = all := by simp only [x, perform, result, Exchange.handed, produced]
      have returned : x.returned = Finding.distinct all := by simp only [x, perform, result, Exchange.returned]
      have after : d = ⟨c.watchlist, c.merged + all.length, c.dropped + (all.length - (Finding.distinct all).length)⟩ :=
        counted
      have fewer := length_distinct_le all
      rw [handed, returned, after]
      exact ⟨rfl, rfl, by simp only; omega⟩
    · have handed : x.handed = [] := by simp only [x, perform, result, Exchange.handed]
      have returned : x.returned = [] := by simp only [x, perform, result, Exchange.returned]
      have after : d = c := kept
      rw [handed, returned, after]
      exact ⟨rfl, rfl, rfl⟩
  | flags name version => exact ⟨rfl, rfl, rfl⟩
  | statistics => exact ⟨rfl, rfl, rfl⟩

theorem Balanced.perform (h : Balanced w xs c) (call : Call ε) :
    Balanced w (xs ++ [⟨call, (c.perform call).1⟩]) (c.perform call).2 := by
  obtain ⟨watchlist, merged, dropped⟩ := perform_counts c call
  have merged_before := h.merged
  have dropped_before := h.dropped
  constructor
  · rw [watchlist, h.watchlist]
  · rw [List.flatMap_append, List.length_append, List.flatMap_singleton]
    omega
  · rw [List.flatMap_append, List.length_append, List.flatMap_singleton]
    omega

theorem Balanced.after (h : Balanced w xs c) (calls : List (Call ε)) :
    Balanced w (xs ++ c.exchanges calls) (c.after calls) := by
  induction calls generalizing c xs with
  | nil => simpa [exchanges, Collector.after] using h
  | cons call calls ih =>
    have next := ih (h.perform call)
    simpa [exchanges, Collector.after] using next

theorem exchanges_call (c : Collector) (calls : List (Call ε)) : (c.exchanges calls).map Exchange.call = calls := by
  induction calls generalizing c with
  | nil => rfl
  | cons call calls ih => simp [exchanges, ih]

theorem exists_perform_of_mem {calls : List (Call ε)} {x : Exchange ε} (h : x ∈ c.exchanges calls) :
    ∃ d : Collector, x.answer = (d.perform x.call).1 := by
  induction calls generalizing c with
  | nil => cases h
  | cons call calls ih =>
    rcases List.mem_cons.1 h with rfl | h
    · exact ⟨c, rfl⟩
    · exact ih h

end Run

/-- After any calls on a collector its counters tell how many findings were handed to the merges that succeeded, and how
many of these were not given back. A merge answers as if it were the first on any collector; one that fails changes nothing,
nor does any other call. -/
theorem after_counts (w : Watchlist) (calls : List (Call ε)) :
    let c := (start w).after calls
    let xs := (start w).exchanges calls
    let handed := (xs.flatMap Exchange.handed).length
    let returned := (xs.flatMap Exchange.returned).length
    (xs.map Exchange.call = calls ∧ c.statistics = ⟨w.packageCount, w.versionCount, handed, handed - returned⟩ ∧
      returned ≤ handed ∧ c.dropped ≤ c.merged) ∧
    (∀ x ∈ xs, ∀ files, x.call = .merge files → ∃ r, x.answer = .merged r ∧ Yields (files.flatMap opened) r ∧
      ∀ d : Collector, (d.perform x.call).1 = x.answer) ∧
    ∀ call : Call ε, (∀ fs, (c.perform call).1 ≠ .merged (.ok fs)) → (c.perform call).2 = c := by
  intro c xs handed returned
  have initial : Balanced w ([] : List (Exchange ε)) (start w) := ⟨rfl, rfl, rfl⟩
  have balanced : Balanced w xs c := initial.after calls
  have merged : c.merged = handed := balanced.merged
  have dropped : c.dropped + returned = c.merged := balanced.dropped
  refine ⟨⟨exchanges_call _ _, ?_, by omega, by omega⟩, ?_, ?_⟩
  · have difference : c.dropped = handed - returned := by omega
    rw [statistics, balanced.watchlist, merged, difference]
  · intro x hx files called
    obtain ⟨d, answered⟩ := exists_perform_of_mem hx
    rw [called] at answered
    refine ⟨_, answered, ?_, ?_⟩
    · rw [List.flatMap_def]
      exact yields_merge d (files.map opened)
    · intro d'
      rw [called, answered]
      exact congrArg Answer.merged (merge_result d' d _)
  · intro call
    exact perform_unchanged c

/-- Merges that fail between two files and within one stand among merges that succeed. -/
theorem after_counts_lodash :
    let w := Watchlist.parse "lodash: 1".toList
    let found (path : String) : Finding :=
      ⟨Path.ofText path.toList, "lodash".toList, ['1'], [], none, by decide, by decide⟩
    let last : List (Except Unit (List (Except Unit Finding))) := [.ok [.ok (found "/a//b")], .ok [.ok (found "/a/b")]]
    let calls : List (Call Unit) :=
      [.merge [.ok [.ok (found "/a"), .ok (found "/b")], .ok [], .ok [.ok (found "/c"), .ok (found "/a")]],
        .merge [.ok [.ok (found "/a")], .error ()], .flags "lodash".toList ['1'],
        .merge [.ok [.ok (found "/a"), .error ()], .ok [.ok (found "/b")]], .statistics, .merge last]
    let c := (start w).after calls
    c.statistics = ⟨1, 1, 6, 2⟩ ∧
      (∃ x ∈ (start w).exchanges calls, x.call = .merge last ∧ x.answer = .merged (.ok [found "/a/b"]) ∧
        ((start w).perform x.call).1 = x.answer) ∧
      (c.perform (.merge [.ok [.ok (found "/d")], .error ()])).2 = c := by
  intro w found last calls c
  obtain ⟨⟨-, told, -⟩, alone, unchanged⟩ := after_counts w calls
  let x : Exchange Unit := ⟨.merge last, .merged (.ok [found "/a/b"])⟩
  have member : x ∈ (start w).exchanges calls := by
    have split : (start w).exchanges calls = ((start w).exchanges calls).take 5 ++ [x] := rfl
    rw [split]
    exact List.mem_append_right _ List.mem_cons_self
  obtain ⟨-, -, -, same⟩ := alone x member last rfl
  refine ⟨told.trans (by decide), ⟨x, member, rfl, rfl, same (start w)⟩, ?_⟩
  apply unchanged
  intro fs succeeded
  cases succeeded

end DependencyAudit.Collector
