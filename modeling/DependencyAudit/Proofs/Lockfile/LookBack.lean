import DependencyAudit.Proofs.Mention.Parser
import DependencyAudit.Proofs.Text

namespace DependencyAudit.Lockfile

namespace Line

/-- What a row says on its own: the first rule that fits it decides, wherever the row stands. -/
def alone (row : Text) : Line :=
  match header? row with
  | some names => .header names
  | none =>
    match bareEntry? row with
    | some name => .bareEntry name
    | none =>
      match version? row with
      | some v => .version v
      | none => if Text.isBlankLine row then .blank else .other

/-- The packages that a line settles for the lines below it. -/
def names? : Line → Option (List Text)
  | .header names => some names
  | .bareEntry name => some [name]
  | .blank => some []
  | .version _ => none
  | .other => none

/-- The packages that a line resolves, each with its version, if the line states one. -/
def resolved (names : List Text) : Line → List (Text × Text)
  | .version v => names.map fun n => (n, v)
  | _ => []

/-- Only a version is read differently with nothing carried, and then it is passed over. -/
theorem read_eq_alone (carried : List Text) (row : Text) :
    read carried row = alone row ∨ carried = [] ∧ read carried row = .other ∧ ∃ v, alone row = .version v := by
  cases hh : header? row with
  | some names => exact .inl (by simp [read, alone, hh])
  | none =>
    cases hb : bareEntry? row with
    | some name => exact .inl (by simp [read, alone, hh, hb])
    | none =>
      cases hv : version? row with
      | none => exact .inl (by simp [read, alone, hh, hb, hv])
      | some v =>
        by_cases hc : carried = []
        · have stated : alone row = .version v := by simp [alone, hh, hb, hv]
          -- With nothing carried the row falls through to the last rule, which takes blank rows only.
          have solid : Text.isBlankLine row = false := by
            apply Bool.eq_false_iff.2
            intro blank
            rw [version?, Text.trimLeft_of_blank blank] at hv
            cases hv
          have passed : read carried row = .other := by simp [read, hh, hb, hc, solid]
          exact .inr ⟨hc, passed, v, stated⟩
        · exact .inl (by simp [read, alone, hh, hb, hv, hc])

/-- The packages carried after a line are those that it settles, or else those carried before. -/
theorem carry_read (carried : List Text) (row : Text) :
    (read carried row).carry carried = (alone row).names?.getD carried := by
  rcases read_eq_alone carried row with h | ⟨rfl, passed, v, stated⟩
  · rw [h]
    cases alone row <;> rfl
  · rw [passed, stated]
    rfl

theorem mentions_read (carried : List Text) (row : Text) :
    (read carried row).mentions carried = ((alone row).resolved carried).map fun s => ⟨s.1, s.2, none⟩ := by
  rcases read_eq_alone carried row with h | ⟨rfl, passed, v, stated⟩
  · rw [h]
    cases alone row with
    | version v => simp only [mentions, resolved, List.map_map, Function.comp_def]
    | header | bareEntry | blank | other => rfl
  · rw [passed, stated]
    rfl

end Line

/-- The packages settled by the nearest row above a place that settles any, or else those carried from before. -/
def namesAbove (carried : List Text) (rows : List Text) (i : Nat) : List Text :=
  ((rows.take i).reverse.findSome? fun row => (Line.alone row).names?).getD carried

/-- The packages that the row at a place resolves, by what stands above it. -/
def resolvedAt (carried : List Text) (rows : List Text) (i : Nat) : List (Text × Text) :=
  match rows[i]? with
  | some row => (Line.alone row).resolved (namesAbove carried rows i)
  | none => []

/-- The packages that rows resolve, in their order. Nothing is kept from row to row. -/
def resolved (carried : List Text) (rows : List Text) : List (Text × Text) :=
  (List.range rows.length).flatMap (resolvedAt carried rows)

theorem namesAbove_cons (carried : List Text) (row : Text) (rows : List Text) (i : Nat) :
    namesAbove carried (row :: rows) (i + 1) = namesAbove ((Line.alone row).names?.getD carried) rows i := by
  have above : (row :: rows).take (i + 1) = row :: rows.take i := rfl
  simp only [namesAbove, above, List.reverse_cons, List.findSome?_append]
  cases (rows.take i).reverse.findSome? fun row => (Line.alone row).names? with
  | some names => rfl
  | none =>
    rw [Option.none_or, List.findSome?_singleton]
    rfl

theorem resolved_cons (carried : List Text) (row : Text) (rows : List Text) :
    resolved carried (row :: rows) =
      (Line.alone row).resolved carried ++ resolved ((Line.alone row).names?.getD carried) rows := by
  have first : resolvedAt carried (row :: rows) 0 = (Line.alone row).resolved carried := rfl
  have later (i : Nat) :
      resolvedAt carried (row :: rows) (i + 1) = resolvedAt ((Line.alone row).names?.getD carried) rows i := by
    rw [resolvedAt, List.getElem?_cons_succ, namesAbove_cons]
    rfl
  rw [resolved, List.length_cons, List.range_succ_eq_map, List.flatMap_cons, first, List.flatMap_map]
  simp only [later]
  rfl

/-- Reading with a state from row to row finds what looking back from each row finds. -/
theorem mentions_eq_resolved (carried : List Text) (rows : List Text) :
    mentions carried rows = (resolved carried rows).map fun s => ⟨s.1, s.2, none⟩ := by
  induction rows generalizing carried with
  | nil => rfl
  | cons row rows ih =>
    rw [mentions, resolved_cons, Line.mentions_read, Line.carry_read, ih, List.map_append]

example : resolved [] (Text.rows "a@1, b@1:\n  version \"1\"\n  version \"2\"\n\n  version \"3\"\n".toList) =
    [("a".toList, "1".toList), ("b".toList, "1".toList), ("a".toList, "2".toList), ("b".toList, "2".toList)] := by
  decide +kernel

section Trace

variable (w : Watchlist) (file : Path) (source : Text)

theorem run_eq_trace (carried rows : List Text) :
    run w file source carried rows =
      ((trace w file source carried rows).mapM Step.found).map List.flatten := by
  induction rows generalizing carried with
  | nil => rfl
  | cons row rows ih =>
    cases hf : (Line.read carried row).findings w file source carried with
    | error e =>
      simp only [run, trace, hf]
      rfl
    | ok found =>
      simp only [run, trace, hf, ih, List.mapM_cons, bind, Except.bind]
      cases (trace w file source ((Line.read carried row).carry carried) rows).mapM Step.found <;> rfl

theorem refused_or_trace_length (carried rows : List Text) :
    (∃ e, run w file source carried rows = .error e) ∨
      (trace w file source carried rows).length = rows.length := by
  induction rows generalizing carried with
  | nil => exact .inr rfl
  | cons row rows ih =>
    cases hf : (Line.read carried row).findings w file source carried with
    | error e => exact .inl ⟨e, by simp only [run, hf]⟩
    | ok found =>
      rcases ih ((Line.read carried row).carry carried) with ⟨e, refused⟩ | all
      · exact .inl ⟨e, by simp only [run, hf, refused]; rfl⟩
      · exact .inr (by simp only [trace, hf, List.length_cons, all])

/-- The packages carried after each row that is read are those of the nearest row up to it that settles any. -/
theorem trace_carried (carried rows : List Text) :
    (trace w file source carried rows).map Step.carried =
      (List.range (trace w file source carried rows).length).map fun i => namesAbove carried rows (i + 1) := by
  induction rows generalizing carried with
  | nil => rfl
  | cons row rows ih =>
    have first : namesAbove carried (row :: rows) 1 = (Line.read carried row).carry carried := by
      rw [namesAbove_cons, Line.carry_read]
      rfl
    have later (i : Nat) : namesAbove carried (row :: rows) (i + 1 + 1) =
        namesAbove ((Line.read carried row).carry carried) rows (i + 1) := by
      rw [namesAbove_cons, Line.carry_read]
    -- A refused row ends the trace, but what it carries is still in it.
    cases hf : (Line.read carried row).findings w file source carried with
    | error e =>
      simp only [trace, hf, List.map_cons, List.map_nil, List.length_singleton, List.range_one, first]
    | ok found =>
      simp only [trace, hf, List.map_cons, List.length_cons, List.range_succ_eq_map, List.map_map, first, ih]
      congr 1
      apply List.map_congr_left
      intro i _
      exact (later i).symm

end Trace

/-- Parsing a lockfile reports the listed ones of the packages that its rows resolve by looking back, and fails exactly
if one of these has no name. What it carries after each row is what looking back from the next one settles. -/
theorem parse_looks_back (w : Watchlist) (file : Path) (content : Text) :
    let p := Parser.lockfile
    let rows := Text.rows content
    let listed := (resolved [] rows).filter fun s => w.flags s.1 s.2
    let steps := trace w file p.fileName [] rows
    (∀ fs, p.parse w file content = .ok fs ↔ List.Forall₂ (fun s f =>
      f.file = file ∧ f.name = s.1 ∧ f.version = s.2 ∧ f.source = p.fileName ∧ f.group = none) listed fs) ∧
    (∀ e, p.parse w file content = .error e ↔ e = .emptyName ∧ ∃ s ∈ listed, s.1 = []) ∧
    p.parse w file content = (steps.mapM Step.found).map List.flatten ∧
    ((∃ e, p.parse w file content = .error e) ∨ steps.length = rows.length) ∧
    steps.map Step.carried = (List.range steps.length).map fun i => namesAbove [] rows (i + 1) := by
  intro p rows listed steps
  have read : p.parse w file content = run w file p.fileName [] rows := rfl
  have reported : p.parse w file content =
      Mention.report w file p.fileName ((resolved [] rows).map fun s => ⟨s.1, s.2, none⟩) := by
    rw [read, run_eq_report, mentions_eq_resolved]
  have kept : ((resolved [] rows).map fun s => (⟨s.1, s.2, none⟩ : Mention)).filter (Mention.isListed w) =
      listed.map fun s => ⟨s.1, s.2, none⟩ := List.filter_map
  refine ⟨?_, ?_, ?_, ?_, trace_carried ..⟩
  · intro fs
    rw [reported, Mention.report_eq_ok, kept, List.forall₂_map_left_iff]
    simp only [Mention.toFinding_eq_ok]
  · intro e
    have versions : ∀ m ∈ (resolved [] rows).map fun s => (⟨s.1, s.2, none⟩ : Mention), m.version ≠ [] := by
      rw [← mentions_eq_resolved]
      exact fun m hm => version_ne_nil_of_mem_mentions hm
    rw [reported, Mention.report_eq_error versions]
    refine and_congr_right fun _ => ?_
    constructor
    · rintro ⟨m, hm, hl, hn⟩
      obtain ⟨s, hs, rfl⟩ := List.mem_map.1 hm
      exact ⟨s, List.mem_filter.2 ⟨hs, hl⟩, hn⟩
    · rintro ⟨s, hs, hn⟩
      obtain ⟨mem, hl⟩ := List.mem_filter.1 hs
      exact ⟨_, List.mem_map.2 ⟨s, mem, rfl⟩, hl, hn⟩
  · rw [read]
    exact run_eq_trace ..
  · rw [read]
    exact refused_or_trace_length ..

end DependencyAudit.Lockfile
