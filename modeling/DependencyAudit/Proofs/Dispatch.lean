import DependencyAudit.ParserTable
import DependencyAudit.Proofs.FirstOccurrence
import Mathlib.Data.List.Forall2
import Mathlib.Data.List.Induction
import Mathlib.Data.List.Nodup

namespace DependencyAudit

section Keys

variable {α β : Type} [DecidableEq β] {key : α → β}

theorem keys_firsts_of_mem {as : List α} {a : α} (h : key a ∈ as.map key) :
    (firsts key (as ++ [a])).map key = (firsts key as).map key := by
  have single : firsts key [a] = [a] := rfl
  rw [firsts_append, single, List.filter_cons_of_neg (by simpa using h), List.filter_nil, List.append_nil]

theorem keys_firsts_of_not_mem {as : List α} {a : α} (h : key a ∉ as.map key) :
    (firsts key (as ++ [a])).map key = (firsts key as).map key ++ [key a] := by
  have single : firsts key [a] = [a] := rfl
  rw [firsts_append, single, List.filter_cons_of_pos (by simpa using h), List.filter_nil, List.map_append]
  rfl

end Keys

theorem Parser.accepts_iff {p : Parser} {file : Path} : p.accepts file = true ↔ p.fileName = file.name := by
  rw [accepts, decide_eq_true_iff, eq_comm]

/-- What a parser is registered for. -/
def Slot.pair (s : Slot) : Text × Text := (s.ecosystem, s.kind)

namespace ParserTable

/-- The last of the registrations for its pair. -/
def IsLatest (calls : List Slot) (s : Slot) : Prop :=
  ∃ before after, calls = before ++ s :: after ∧ ∀ t ∈ after, t.pair ≠ s.pair

/-- The parser that a pair has in the end. -/
def IsCurrent (calls : List Slot) (pair : Text × Text) (p : Parser) : Prop := IsLatest calls ⟨pair.1, pair.2, p⟩

/-- The parser that a file goes to: of the pairs whose parser is for files of its name, the one that was registered
first. -/
def IsSelected (calls : List Slot) (file : Path) (p : Parser) : Prop :=
  ∃ before s after, firsts Slot.pair calls = before ++ s :: after ∧ IsCurrent calls s.pair p ∧ p.fileName = file.name ∧
    ∀ t ∈ before, ∀ q, IsCurrent calls t.pair q → q.fileName ≠ file.name

/-- What a table answers after registrations, each answer told by the registrations alone. -/
structure Dispatches (calls : List Slot) (table : ParserTable) : Prop where
  parser : ∀ ecosystem kind p, table.parser? ecosystem kind = some p ↔ IsCurrent calls (ecosystem, kind) p
  unregistered : ∀ ecosystem kind, table.parser? ecosystem kind = none ↔ ∀ s ∈ calls, s.pair ≠ (ecosystem, kind)
  parserFor : ∀ file p, table.parserFor? file = some p ↔ IsSelected calls file p
  unclaimed : ∀ file, table.parserFor? file = none ↔
    ∀ s ∈ calls, ∀ p, IsCurrent calls s.pair p → p.fileName ≠ file.name
  priority : ∀ s, s.pair ∈ calls.map Slot.pair → (table.register s).slots.map Slot.pair = table.slots.map Slot.pair
  ecosystems : table.ecosystems = (firsts Slot.ecosystem calls).map Slot.ecosystem
  once : table.ecosystems.Nodup
  mem_ecosystems : ∀ e, e ∈ table.ecosystems ↔ ∃ s ∈ calls, s.ecosystem = e
  kinds : table.kinds = (firsts Slot.pair calls).map Slot.kind
  fileNames : List.Forall₂ (fun s name => ∃ p, IsCurrent calls s.pair p ∧ p.fileName = name) (firsts Slot.pair calls)
    table.fileNames
  parse : ∀ w file content p, IsSelected calls file p → table.parse w file content = p.parse w file content
  unparsed : ∀ w file content, (∀ p, ¬ IsSelected calls file p) → table.parse w file content = .ok []

/-- What a table keeps of the registrations: the pairs in the order in which each came first, every one with its last
parser, and the ecosystems in the same way. -/
structure Records (calls : List Slot) (table : ParserTable) : Prop where
  pairs : table.slots.map Slot.pair = (firsts Slot.pair calls).map Slot.pair
  latest : ∀ s, s ∈ table.slots ↔ IsLatest calls s
  ecosystems : table.ecosystems = (firsts Slot.ecosystem calls).map Slot.ecosystem

section Step

variable {calls ts : List Slot} {s t c : Slot} {table : ParserTable}

theorem isLatest_concat : IsLatest (calls ++ [c]) s ↔ s = c ∨ IsLatest calls s ∧ s.pair ≠ c.pair := by
  constructor
  · intro h
    obtain ⟨before, after, split, later⟩ := h
    obtain rfl | ⟨rest, last, rfl⟩ := List.eq_nil_or_concat after
    · obtain ⟨-, same⟩ := List.append_inj' split rfl
      exact .inl (List.cons.inj same).1.symm
    · rw [List.concat_eq_append] at split later
      have split' : calls ++ [c] = (before ++ s :: rest) ++ [last] := by simpa using split
      obtain ⟨earlier, same⟩ := List.append_inj' split' rfl
      obtain rfl : c = last := (List.cons.inj same).1
      have apart : c.pair ≠ s.pair := later c (by simp)
      exact .inr ⟨⟨before, rest, earlier, fun t ht => later t (List.mem_append_left _ ht)⟩, apart.symm⟩
  · intro h
    obtain rfl | ⟨⟨before, after, rfl, later⟩, apart⟩ := h
    · exact ⟨calls, [], rfl, by simp⟩
    · refine ⟨before, after ++ [c], by simp, ?_⟩
      intro t ht
      rcases List.mem_append.1 ht with ht | ht
      · exact later t ht
      · rw [List.mem_singleton.1 ht]
        exact apart.symm

theorem place_here (h : t.pair = s.pair) : place s (t :: ts) = s :: ts := by
  have fields : t.ecosystem = s.ecosystem ∧ t.kind = s.kind := Prod.mk.inj h
  rw [place, if_pos fields]

theorem place_later (h : t.pair ≠ s.pair) : place s (t :: ts) = t :: place s ts := by
  have fields : ¬ (t.ecosystem = s.ecosystem ∧ t.kind = s.kind) := fun same => h (Prod.ext same.1 same.2)
  rw [place, if_neg fields]

/-- A slot that is replaced keeps its place; a new one comes last. -/
theorem pairs_place (s : Slot) (ts : List Slot) :
    (place s ts).map Slot.pair =
      if s.pair ∈ ts.map Slot.pair then ts.map Slot.pair else ts.map Slot.pair ++ [s.pair] := by
  induction ts with
  | nil => rfl
  | cons t ts ih =>
    by_cases here : t.pair = s.pair
    · simp [place_here here, here]
    · have other : s.pair ≠ t.pair := Ne.symm here
      rw [place_later here, List.map_cons, ih]
      by_cases known : s.pair ∈ ts.map Slot.pair <;> simp [known, other]

theorem mem_place (nodup : (ts.map Slot.pair).Nodup) : t ∈ place s ts ↔ t = s ∨ t ∈ ts ∧ t.pair ≠ s.pair := by
  induction ts with
  | nil => simp [place]
  | cons u ts ih =>
    obtain ⟨new, rest⟩ := List.nodup_cons.1 nodup
    by_cases here : u.pair = s.pair
    · have others : ∀ v ∈ ts, v.pair ≠ s.pair := by
        intro v hv same
        exact new (List.mem_map.2 ⟨v, hv, same.trans here.symm⟩)
      rw [place_here here, List.mem_cons, List.mem_cons]
      constructor
      · intro h
        rcases h with h | h
        · exact .inl h
        · exact .inr ⟨.inr h, others t h⟩
      · intro h
        rcases h with h | ⟨rfl | h, apart⟩
        · exact .inl h
        · exact absurd here apart
        · exact .inr h
    · rw [place_later here, List.mem_cons, ih rest, List.mem_cons]
      constructor
      · intro h
        rcases h with rfl | h | ⟨h, apart⟩
        · exact .inr ⟨.inl rfl, here⟩
        · exact .inl h
        · exact .inr ⟨.inr h, apart⟩
      · intro h
        rcases h with h | ⟨h | h, apart⟩
        · exact .inr (.inl h)
        · exact .inl h
        · exact .inr (.inr ⟨h, apart⟩)

theorem Records.nodup (h : Records calls table) : (table.slots.map Slot.pair).Nodup := by
  rw [h.pairs]
  exact nodup_keys_firsts Slot.pair calls

theorem records_empty : Records [] empty := by
  refine ⟨rfl, ?_, rfl⟩
  intro s
  simp [empty, IsLatest]

theorem Records.register (h : Records calls table) (c : Slot) : Records (calls ++ [c]) (table.register c) := by
  constructor
  case pairs =>
    have keys : c.pair ∈ table.slots.map Slot.pair ↔ c.pair ∈ calls.map Slot.pair := by rw [h.pairs, mem_keys_firsts]
    rw [ParserTable.register, pairs_place]
    by_cases known : c.pair ∈ calls.map Slot.pair
    · rw [if_pos (keys.2 known), keys_firsts_of_mem known, h.pairs]
    · rw [if_neg (mt keys.1 known), keys_firsts_of_not_mem known, h.pairs]
  case latest =>
    intro s
    rw [ParserTable.register, mem_place h.nodup, h.latest, isLatest_concat]
  case ecosystems =>
    have keys : table.ecosystems.contains c.ecosystem = true ↔ c.ecosystem ∈ calls.map Slot.ecosystem := by
      rw [List.contains_iff_mem, h.ecosystems, mem_keys_firsts]
    rw [ParserTable.register]
    by_cases known : c.ecosystem ∈ calls.map Slot.ecosystem
    · rw [if_pos (keys.2 known), keys_firsts_of_mem known, h.ecosystems]
    · rw [if_neg (mt keys.1 known), keys_firsts_of_not_mem known, h.ecosystems]

theorem records_foldl (calls : List Slot) : Records calls (calls.foldl ParserTable.register empty) := by
  induction calls using List.reverseRecOn with
  | nil => exact records_empty
  | append_singleton calls c ih =>
    rw [List.foldl_append]
    exact ih.register c

end Step

section Answers

variable {calls : List Slot} {table : ParserTable} (h : Records calls table) {s u : Slot} {p : Parser}

include h

theorem Records.current (hu : u ∈ table.slots) : IsCurrent calls u.pair u.parser := (h.latest u).1 hu

/-- A slot of a pair has its current parser. -/
theorem Records.parser_eq (hu : u ∈ table.slots) (hp : IsCurrent calls u.pair p) : p = u.parser := by
  have here : (⟨u.ecosystem, u.kind, p⟩ : Slot) ∈ table.slots := (h.latest _).2 hp
  have same : (⟨u.ecosystem, u.kind, p⟩ : Slot) = u := List.inj_on_of_nodup_map h.nodup here hu rfl
  exact congrArg Slot.parser same

theorem Records.mem_pairs (pair : Text × Text) : pair ∈ table.slots.map Slot.pair ↔ ∃ s ∈ calls, s.pair = pair := by
  rw [h.pairs, mem_keys_firsts, List.mem_map]

theorem Records.parser?_eq_some (ecosystem kind : Text) :
    table.parser? ecosystem kind = some p ↔ IsCurrent calls (ecosystem, kind) p := by
  rw [parser?, Option.map_eq_some_iff]
  constructor
  · intro found
    obtain ⟨u, found, rfl⟩ := found
    have fields : u.ecosystem = ecosystem ∧ u.kind = kind := by simpa using List.find?_some found
    obtain ⟨rfl, rfl⟩ := fields
    exact h.current (List.mem_of_find?_eq_some found)
  · intro current
    have here : (⟨ecosystem, kind, p⟩ : Slot) ∈ table.slots := (h.latest _).2 current
    cases found : table.slots.find? fun s => s.ecosystem = ecosystem ∧ s.kind = kind with
    | none =>
      have missing := List.find?_eq_none.1 found _ here
      simp at missing
    | some u =>
      have fields : u.ecosystem = ecosystem ∧ u.kind = kind := by simpa using List.find?_some found
      obtain ⟨rfl, rfl⟩ := fields
      exact ⟨u, rfl, (h.parser_eq (List.mem_of_find?_eq_some found) current).symm⟩

theorem Records.parser?_eq_none (ecosystem kind : Text) :
    table.parser? ecosystem kind = none ↔ ∀ s ∈ calls, s.pair ≠ (ecosystem, kind) := by
  have missing : table.parser? ecosystem kind = none ↔ (ecosystem, kind) ∉ table.slots.map Slot.pair := by
    simp [parser?, Slot.pair]
  rw [missing, h.mem_pairs]
  simp

theorem Records.parserFor?_eq_some (file : Path) : table.parserFor? file = some p ↔ IsSelected calls file p := by
  rw [parserFor?, slotFor?, Option.map_eq_some_iff]
  constructor
  · intro found
    obtain ⟨u, found, rfl⟩ := found
    obtain ⟨accepts, as, bs, split, earlier⟩ := List.find?_eq_some_iff_append.1 found
    have order : (firsts Slot.pair calls).map Slot.pair = as.map Slot.pair ++ u.pair :: bs.map Slot.pair := by
      rw [← h.pairs, split, List.map_append, List.map_cons]
    obtain ⟨before, rest, firsts_eq, before_eq, rest_eq⟩ := List.map_eq_append_iff.1 order
    obtain ⟨s, after, rfl, same, -⟩ := List.map_eq_cons_iff.1 rest_eq
    refine ⟨before, s, after, firsts_eq, ?_, ?_, ?_⟩
    · rw [same]
      exact h.current (List.mem_of_find?_eq_some found)
    · exact Parser.accepts_iff.1 accepts
    · intro t ht q current
      have key : t.pair ∈ as.map Slot.pair := before_eq ▸ List.mem_map_of_mem ht
      obtain ⟨a, ha, pair⟩ := List.mem_map.1 key
      have here : a ∈ table.slots := split ▸ List.mem_append_left _ ha
      obtain rfl : q = a.parser := h.parser_eq here (pair ▸ current)
      have refused : a.parser.accepts file ≠ true := by simpa using earlier a ha
      exact mt Parser.accepts_iff.2 refused
  · intro selected
    obtain ⟨before, s, after, firsts_eq, current, named, earlier⟩ := selected
    have order : table.slots.map Slot.pair = before.map Slot.pair ++ s.pair :: after.map Slot.pair := by
      rw [h.pairs, firsts_eq, List.map_append, List.map_cons]
    obtain ⟨as, rest, split, as_eq, rest_eq⟩ := List.map_eq_append_iff.1 order
    obtain ⟨u, bs, rfl, same, -⟩ := List.map_eq_cons_iff.1 rest_eq
    have here : u ∈ table.slots := by simp [split]
    obtain rfl : p = u.parser := h.parser_eq here (same ▸ current)
    refine ⟨u, List.find?_eq_some_iff_append.2 ⟨Parser.accepts_iff.2 named, as, bs, split, ?_⟩, rfl⟩
    intro a ha
    have key : a.pair ∈ before.map Slot.pair := as_eq ▸ List.mem_map_of_mem ha
    obtain ⟨t, ht, pair⟩ := List.mem_map.1 key
    have current : IsCurrent calls t.pair a.parser := pair ▸ h.current (split ▸ List.mem_append_left _ ha)
    have refused : a.parser.accepts file ≠ true := mt Parser.accepts_iff.1 (earlier t ht a.parser current)
    simpa using refused

theorem Records.parserFor?_eq_none (file : Path) :
    table.parserFor? file = none ↔ ∀ s ∈ calls, ∀ p, IsCurrent calls s.pair p → p.fileName ≠ file.name := by
  have missing : table.parserFor? file = none ↔ ∀ u ∈ table.slots, u.parser.fileName ≠ file.name := by
    simp [parserFor?, slotFor?, Parser.accepts_iff]
  rw [missing]
  constructor
  · intro others s hs p current
    exact others ⟨s.ecosystem, s.kind, p⟩ ((h.latest _).2 current)
  · intro others u hu
    obtain ⟨s, hs, pair⟩ := (h.mem_pairs u.pair).1 (List.mem_map_of_mem hu)
    exact others s hs u.parser (pair ▸ h.current hu)

theorem Records.fileNames : List.Forall₂ (fun s name => ∃ p, IsCurrent calls s.pair p ∧ p.fileName = name)
    (firsts Slot.pair calls) table.fileNames := by
  have aligned : List.Forall₂ (fun u s : Slot => u.pair = s.pair) table.slots (firsts Slot.pair calls) := by
    have equal : List.Forall₂ Eq (table.slots.map Slot.pair) ((firsts Slot.pair calls).map Slot.pair) := by
      rw [List.forall₂_eq_eq_eq]
      exact h.pairs
    rw [List.forall₂_map_left_iff, List.forall₂_map_right_iff] at equal
    exact equal
  have current : List.Forall₂ (fun u s : Slot => IsCurrent calls u.pair u.parser ∧ u.pair = s.pair) table.slots
      (firsts Slot.pair calls) := (List.forall₂_and_left ..).2 ⟨fun u hu => h.current hu, aligned⟩
  rw [ParserTable.fileNames, List.forall₂_map_right_iff]
  exact (current.imp fun u s both => ⟨u.parser, both.2 ▸ both.1, rfl⟩).flip

end Answers

/-- After any registrations a table answers as the last registration of each pair says, and in the order of the first
ones: registering a pair again changes its parser and not its place. -/
theorem dispatches_foldl (calls : List Slot) : Dispatches calls (calls.foldl register empty) where
  parser ecosystem kind p := (records_foldl calls).parser?_eq_some ecosystem kind
  unregistered := (records_foldl calls).parser?_eq_none
  parserFor file p := (records_foldl calls).parserFor?_eq_some file
  unclaimed := (records_foldl calls).parserFor?_eq_none
  priority s known := by
    have registered : s.pair ∈ (calls.foldl register empty).slots.map Slot.pair := by
      rw [(records_foldl calls).pairs, mem_keys_firsts]
      exact known
    rw [register, pairs_place, if_pos registered]
  ecosystems := (records_foldl calls).ecosystems
  once := by
    rw [(records_foldl calls).ecosystems]
    exact nodup_keys_firsts Slot.ecosystem calls
  mem_ecosystems e := by rw [(records_foldl calls).ecosystems, mem_keys_firsts, List.mem_map]
  kinds := by
    have pairs := congrArg (List.map Prod.snd) (records_foldl calls).pairs
    rw [List.map_map, List.map_map] at pairs
    exact pairs
  fileNames := (records_foldl calls).fileNames
  parse w file content p selected := by
    rw [parse, ((records_foldl calls).parserFor?_eq_some file).2 selected]
  unparsed w file content others := by
    have missing : (calls.foldl register empty).parserFor? file = none := by
      rw [Option.eq_none_iff_forall_ne_some]
      intro p found
      exact others p (((records_foldl calls).parserFor?_eq_some file).1 found)
    rw [parse, missing]

/-- The first of two parsers for one file name gives way to the other when it is replaced by one for another name. -/
example :
    let slot (ecosystem kind label fileName : String) : Slot :=
      ⟨ecosystem.toList, kind.toList, ⟨label.toList, fileName.toList, fun _ _ _ => .ok []⟩⟩
    let first := slot "nodejs" "yarn" "first" "yarn.lock"
    let other := slot "berry" "yarn" "other" "yarn.lock"
    let table := [first, other, slot "nodejs" "yarn" "second" "old.lock"].foldl register empty
    let chosen (table : ParserTable) : Option Text :=
      (table.parserFor? (Path.ofText "a/yarn.lock".toList)).map (·.label)
    chosen ([first, other].foldl register empty) = some "first".toList ∧ chosen table = some "other".toList ∧
      table.fileNames = ["old.lock".toList, "yarn.lock".toList] := by
  decide

end ParserTable

end DependencyAudit
