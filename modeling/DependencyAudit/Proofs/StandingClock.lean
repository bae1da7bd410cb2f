import DependencyAudit.Command.Scan
import DependencyAudit.Proofs.Console.Laws
import Mathlib.Data.List.Basic

namespace DependencyAudit

section Results

variable {ε α β : Type}

/-- Where every step from a good state leads to a good one, the last state is there and good. -/
theorem exists_foldlM {P : β → Prop} {g : β → α → Except ε β} {as : List α}
    (step : ∀ a ∈ as, ∀ b, P b → ∃ c, g b a = .ok c ∧ P c) {b : β} (first : P b) :
    ∃ c, as.foldlM g b = .ok c ∧ P c := by
  induction as generalizing b with
  | nil => exact ⟨b, rfl, first⟩
  | cons a as ih =>
    obtain ⟨c, hc, next⟩ := step a List.mem_cons_self b first
    obtain ⟨last, hlast, good⟩ := ih (fun a' ha' => step a' (List.mem_cons_of_mem a ha')) next
    refine ⟨last, ?_, good⟩
    rw [List.foldlM_cons, hc]
    exact hlast

end Results

namespace Seconds

/-- No time at all, or a time of double precision: nothing beyond range comes of such. -/
def Fits (s : Seconds) : Prop := s = .whole 0 ∨ ∃ x, s = .real x

variable {s t : Seconds}

theorem Fits.exists_toDouble (h : s.Fits) : ∃ x, s.toDouble = .ok x := by
  rcases h with rfl | ⟨x, rfl⟩
  · exact ⟨.zero false, rfl⟩
  · exact ⟨x, rfl⟩

theorem Fits.exists_add (hs : s.Fits) (ht : t.Fits) : ∃ u, s.add t = .ok u ∧ u.Fits := by
  rcases hs with rfl | ⟨x, rfl⟩
  · rcases ht with rfl | ⟨y, rfl⟩
    · exact ⟨_, rfl, .inl rfl⟩
    · exact ⟨_, rfl, .inr ⟨_, rfl⟩⟩
  · rcases ht with rfl | ⟨y, rfl⟩
    · exact ⟨_, rfl, .inr ⟨_, rfl⟩⟩
    · exact ⟨_, rfl, .inr ⟨_, rfl⟩⟩

theorem Fits.exists_share (h : s.Fits) (count : Nat) : ∃ x, s.share count = .ok x := by
  rcases h with rfl | ⟨x, rfl⟩
  · exact ⟨.zero false, rfl⟩
  · exact ⟨x.share count, rfl⟩

/-- The time between a reading and the same reading is none, however large the reading is. -/
theorem exists_sub_self (s : Seconds) : ∃ t, s.sub s = .ok t ∧ t.Fits := by
  cases s with
  | whole n => exact ⟨.whole (n - n), rfl, .inl (by rw [Int.sub_self])⟩
  | real x => exact ⟨.real (x.sub x), rfl, .inr ⟨_, rfl⟩⟩

end Seconds

namespace Stopwatch

theorem Fits.exists_shown {s : Seconds} (h : s.Fits) : ∃ t, shown s = .ok t := by
  obtain ⟨x, hx⟩ := h.exists_toDouble
  refine ⟨Decimal.fixed 4 x ++ ['s'], ?_⟩
  rw [shown, Seconds.fixed, hx]
  rfl

/-- Nothing is being measured, and the clock will show the same at so many readings. -/
structure Still (w : Stopwatch) (reading : Seconds) (left : Nat) : Prop where
  isOn : w.isOn = true
  idle : w.running = []
  clock : w.clock = List.replicate left reading

variable {w : Stopwatch} {reading span : Seconds}

theorem lap_of_still (left : Nat) (h : w.Still reading (left + 2)) (same : reading.sub reading = .ok span)
    (name : Text) : ∃ w', w.lap name = .ok w' ∧ w'.Still reading left ∧ w'.laps = w.laps ++ [⟨name, span⟩] := by
  obtain ⟨isOn, running, laps, clock, readings⟩ := w
  obtain ⟨rfl, rfl, rfl⟩ := h
  let after (seconds : Seconds) : Stopwatch :=
    ⟨true, [], laps ++ [⟨name, seconds⟩], List.replicate left reading, readings + 1 + 1⟩
  have measured : (reading.sub reading).map after = .ok (after span) := congrArg (Except.map after) same
  exact ⟨after span, measured, ⟨rfl, rfl, rfl⟩, rfl⟩

/-- Over a clock that stands still all measurements take the same time. -/
theorem foldlM_lap_of_still (names : List Text) (h : w.Still reading (2 * names.length))
    (same : reading.sub reading = .ok span) :
    ∃ w', names.foldlM lap w = .ok w' ∧ w'.laps = w.laps ++ names.map (⟨·, span⟩) := by
  induction names generalizing w with
  | nil => exact ⟨w, rfl, (List.append_nil _).symm⟩
  | cons name names ih =>
    obtain ⟨next, measured, still, laps⟩ := lap_of_still (2 * names.length) h same name
    obtain ⟨last, rest, all⟩ := ih still
    refine ⟨last, ?_, ?_⟩
    · rw [List.foldlM_cons, measured]
      exact rest
    · rw [all, laps, List.append_assoc]
      rfl

section Summary

variable (fits : ∀ l ∈ w.laps, l.seconds.Fits)

include fits

theorem exists_total : ∃ t, w.total = .ok t ∧ t.Fits :=
  exists_foldlM (fun l hl _ sum => sum.exists_add (fits l hl)) (.inl rfl)

theorem exists_times : ∃ ts, w.times = .ok ts := by
  obtain ⟨total, htotal, sum⟩ := exists_total fits
  obtain ⟨average, haverage⟩ := sum.exists_share w.laps.length
  obtain ⟨ofTotal, htext⟩ := Fits.exists_shown sum
  obtain ⟨ofLaps, htexts, -⟩ := Console.exists_mapM (P := fun _ => True) (f := fun l : Lap => shown l.seconds) fun l hl => by
    obtain ⟨t, ht⟩ := Fits.exists_shown (fits l hl)
    exact ⟨t, ht, trivial⟩
  have shared : w.average = .ok average := by
    rw [Stopwatch.average, htotal]
    exact haverage
  refine ⟨(ofLaps, ofTotal), ?_⟩
  rw [times, htotal, shared, htexts]
  simp only [bind, Except.bind, htext, pure, Except.pure]

/-- Laps with plain names are told in a table. -/
theorem exists_summary {screen : Console.Screen} (lawful : screen.Lawful)
    (names : ∀ l ∈ w.laps, Console.isPlain l.name = true) :
    ∃ table, w.summary? = .ok table ∧ ∀ item ∈ table, screen.Shows item := by
  obtain ⟨⟨ofLaps, ofTotal⟩, told⟩ := exists_times fits
  rw [summary?]
  split
  · exact ⟨none, rfl, fun item none_told => absurd none_told (Option.not_mem_none item)⟩
  · rw [told]
    refine ⟨_, rfl, ?_⟩
    intro item made
    obtain rfl := Option.some.inj made
    have row {name : Text} (plain : Console.isPlain name = true) (time : Text) :
        ∀ part ∈ [.markup name, .literal (CodePoint.ofText time)], Console.Part.IsPlain part :=
      List.forall_mem_cons.2 ⟨plain, List.forall_mem_singleton.2 (Name.isText_ofText time)⟩
    refine lawful.table _ _ _ (by decide) (by decide) ?_
    intro parts hparts
    rcases List.mem_append.1 hparts with hparts | hparts
    · rw [← List.map_uncurry_zip_eq_zipWith] at hparts
      obtain ⟨⟨name, time⟩, both, rfl⟩ := List.mem_map.1 hparts
      obtain ⟨l, hl, rfl⟩ := List.mem_map.1 (List.of_mem_zip both).1
      exact row (names l hl) time
    · obtain rfl := List.mem_singleton.1 hparts
      exact row (by decide) ofTotal

end Summary

end Stopwatch

namespace Command

theorem phaseTimes_eq_ok (reading : Seconds) :
    ∃ w span, phaseTimes reading = .ok w ∧ w.laps = phases.map (⟨·, span⟩) ∧ span.Fits := by
  obtain ⟨span, same, fits⟩ := reading.exists_sub_self
  have still : (Stopwatch.start true (List.replicate (2 * phases.length) reading)).Still reading (2 * phases.length) :=
    ⟨rfl, rfl, rfl⟩
  obtain ⟨w, measured, laps⟩ := Stopwatch.foldlM_lap_of_still phases still same
  exact ⟨w, span, measured, laps, fits⟩

section Lawful

variable {screen : Console.Screen} (lawful : screen.Lawful)

include lawful

theorem exists_phases_summary (reading : Seconds) :
    ∃ w table, phaseTimes reading = .ok w ∧ w.summary? = .ok table ∧ ∀ item ∈ table, screen.Shows item := by
  obtain ⟨w, span, measured, laps, fits⟩ := phaseTimes_eq_ok reading
  have plain : ∀ name ∈ phases, Console.isPlain name = true := by decide
  have told := Stopwatch.exists_summary (w := w) ?_ lawful ?_
  · obtain ⟨table, htable, shows⟩ := told
    exact ⟨w, table, measured, htable, shows⟩
  · intro l hl
    rw [laps] at hl
    obtain ⟨name, -, rfl⟩ := List.mem_map.1 hl
    exact fits
  · intro l hl
    rw [laps] at hl
    obtain ⟨name, hname, rfl⟩ := List.mem_map.1 hl
    exact plain name hname

theorem shows_summaryHeading : screen.Shows summaryHeading :=
  lawful.heading "bold cyan".toList (by decide) ['\n'] "Performance Summary:".toList (by decide) (by decide)

/-- A path is told whatever characters it holds. -/
theorem shows_writtenLine {path : Path} (text : Name.isText path.text = true) : screen.Shows (writtenLine path) :=
  lawful.literal _ _ (by decide) text

end Lawful

namespace Printing

variable {p : Printing} {screen : Console.Screen}

theorem fault_put (h : p.fault = none) {item : Console.Item Name} (shows : screen.Shows item) :
    (p.put screen item).fault = none := by
  obtain ⟨lines, shown⟩ := shows
  rw [put, h, shown]

theorem fault_putAll (h : p.fault = none) {items : List (Console.Item Name)}
    (shows : ∀ item ∈ items, screen.Shows item) :
    (p.putAll screen items).fault = none := by
  rw [putAll]
  induction items generalizing p with
  | nil => exact h
  | cons item items ih =>
    rw [List.foldl_cons]
    exact ih (fault_put h (shows item List.mem_cons_self)) fun i hi => shows i (List.mem_cons_of_mem item hi)

/-- The time of the phases is told whatever the clock shows. -/
theorem fault_phaseSummary {s : Surroundings} (lawful : s.screen.Lawful) (h : p.fault = none) (o : ScanOptions) :
    (phaseSummary p o s).fault = none := by
  rw [phaseSummary]
  split
  · have headed := fault_put h (shows_summaryHeading lawful)
    obtain ⟨w, table, measured, told, shows⟩ := exists_phases_summary lawful s.reading
    have summary : (phaseTimes s.reading).bind (·.summary?) = .ok table := by
      rw [measured]
      exact told
    simp only [headed, summary]
    cases table with
    | none => exact headed
    | some item => exact fault_put headed (shows item rfl)
  · exact h

end Printing

end Command

end DependencyAudit
