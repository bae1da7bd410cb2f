import DependencyAudit.Console.Screen
import DependencyAudit.Decimal.Fixed
import DependencyAudit.Log

namespace DependencyAudit

/-- Seconds on a clock, or between two readings of it: a whole number of any size, or one of double precision. -/
inductive Seconds where
  | whole (n : Int)
  | real (x : Decimal.Double)
deriving DecidableEq

/-- A whole number beyond double precision, met where it has to be turned into such a number or where a quotient of it
has to be one. -/
inductive RangeFault where
  | conversion
  | quotient
deriving DecidableEq

def RangeFault.message : RangeFault → Text
  | .conversion => "int too large to convert to float".toList
  | .quotient => "integer division result too large for a float".toList

/-- A number unless it is beyond the largest. -/
def withinRange (fault : RangeFault) : Decimal.Double → Except RangeFault Decimal.Double
  | .infinite _ => .error fault
  | x => .ok x

namespace Seconds

def toDouble : Seconds → Except RangeFault Decimal.Double
  | .whole n => withinRange .conversion (.ofInt n)
  | .real x => .ok x

def add : Seconds → Seconds → Except RangeFault Seconds
  | .whole n, .whole m => .ok (.whole (n + m))
  | s, t => return .real ((← s.toDouble).add (← t.toDouble))

def sub : Seconds → Seconds → Except RangeFault Seconds
  | .whole n, .whole m => .ok (.whole (n - m))
  | s, t => return .real ((← s.toDouble).sub (← t.toDouble))

/-- One of so many equal shares. -/
def share (s : Seconds) (count : Nat) : Except RangeFault Decimal.Double :=
  match s with
  | .whole n => withinRange .quotient (.nearest (decide (n < 0)) n.natAbs count)
  | .real x => .ok (x.share count)

def fixed (places : Nat) (s : Seconds) : Except RangeFault Text := s.toDouble.map (Decimal.fixed places)

end Seconds

/-- A finished measurement. -/
structure Lap where
  name : Text
  seconds : Seconds

/-- Nested measurements over a clock whose readings are given in advance; past their end it shows zero. A stopwatch
that is off measures nothing and never reads the clock. -/
structure Stopwatch where
  isOn : Bool
  running : List (Text × Seconds)
  laps : List Lap
  clock : List Seconds
  readings : Nat

namespace Stopwatch

def start (isOn : Bool) (clock : List Seconds) : Stopwatch := ⟨isOn, [], [], clock, 0⟩

def reading (w : Stopwatch) : Seconds := w.clock.headD (.whole 0)

def afterReading (w : Stopwatch) : Stopwatch := { w with clock := w.clock.tail, readings := w.readings + 1 }

/-- Opens a measurement inside those that run. -/
def enter (w : Stopwatch) (name : Text) : Stopwatch :=
  if w.isOn then { w.afterReading with running := (name, w.reading) :: w.running }
  else { w with running := (name, .whole 0) :: w.running }

/-- Closes the innermost measurement, however it came to its end. -/
def leave (w : Stopwatch) : Except RangeFault Stopwatch :=
  match w.running with
  | [] => .ok w
  | (name, since) :: outer =>
    if w.isOn then
      (w.reading.sub since).map fun seconds =>
        { w.afterReading with running := outer, laps := w.laps ++ [⟨name, seconds⟩] }
    else .ok { w with running := outer }

/-- One measurement from its beginning to its end. -/
def lap (w : Stopwatch) (name : Text) : Except RangeFault Stopwatch := (w.enter name).leave

/-- The seconds of all laps, added up in their order. -/
def total (w : Stopwatch) : Except RangeFault Seconds := w.laps.foldlM (fun sum l => sum.add l.seconds) (.whole 0)

def average (w : Stopwatch) : Except RangeFault Decimal.Double := w.total.bind (·.share w.laps.length)

/-- Seconds as a table shows them. -/
def shown (seconds : Seconds) : Except RangeFault Text := (seconds.fixed 4).map (· ++ ['s'])

/-- The seconds of all laps and of their total as a table shows them. There has to be an average of them too. -/
def times (w : Stopwatch) : Except RangeFault (List Text × Text) := do
  let total ← w.total
  let _ ← w.average
  let laps ← w.laps.mapM fun l => shown l.seconds
  return (laps, ← shown total)

/-- The table of all laps with their total, one row each; names are markup. Without laps there is no table. -/
def summary? (w : Stopwatch) : Except RangeFault (Option (Console.Item Name)) :=
  if w.laps.isEmpty then .ok none
  else
    w.times.map fun (laps, total) =>
      let row (name time : Text) : List (Console.Part Name) := [.markup name, .literal time]
      some (.table "Performance Summary".toList ["Operation".toList, "Time".toList]
        (List.zipWith row (w.laps.map (·.name)) laps ++ [row "Total".toList total]))

/-- The note that something took the time between two readings. -/
def took (name : Text) (start stop : Seconds) : Except RangeFault Log.Entry := do
  let seconds ← (← stop.sub start).fixed 4
  return Log.entry Log.timingLogger .info [name, " took ".toList, seconds, " seconds".toList]

/-- The variable that asks for these notes by any value but the empty one. -/
def announceVariable : Text := "HOF_SCANNER_VERBOSE_BENCHMARK".toList

/-- Something timed: what it gave, the notes, and how often the clock was read. -/
structure Timed (ε α : Type) where
  result : Except ε α
  log : List Log.Entry
  readings : Nat

/-- Times something; the clock is read again, and a note made if asked for, only when it succeeds. A note that cannot be
made spoils it. -/
def timed {ε α : Type} (announce : Bool) (name : Text) (clock : List Seconds) (spoiled : RangeFault → ε)
    (result : Except ε α) : Timed ε α :=
  let before := start true clock
  match result with
  | .error e => ⟨.error e, [], before.afterReading.readings⟩
  | .ok a =>
    let after := before.afterReading
    let readings := after.afterReading.readings
    if announce then
      match took name before.reading after.reading with
      | .error f => ⟨.error (spoiled f), [], readings⟩
      | .ok note => ⟨.ok a, [note], readings⟩
    else ⟨.ok a, [], readings⟩

end Stopwatch

end DependencyAudit
