import DependencyAudit.Audit
import DependencyAudit.Command.Request
import DependencyAudit.Console.View
import DependencyAudit.Json.Saving
import DependencyAudit.Stopwatch

namespace DependencyAudit.Command

/-- What a run finds around it: the files, the network and the time, the variables, the screen, and the reading of a clock
that stands still. -/
structure Surroundings where
  site : Audit.Site
  vars : Variables
  screen : Console.Screen
  reading : Seconds

/-- What can end a run from inside without being reported by it. -/
inductive Escape where
  | failure (f : Failure)
  | saving (f : Json.SaveFault)
  | screen (f : Console.Fault)
  | timing (f : RangeFault)
deriving DecidableEq

def Escape.message : Escape → Name
  | .failure f => f.message
  | .saving f => f.message
  | .screen f => f.message
  | .timing f => f.message

inductive Ending where
  | exited (code : Nat)
  | escaped (e : Escape)
deriving DecidableEq

def Ending.exitCode : Ending → Nat
  | .exited code => code
  | .escaped _ => 1

/-- What a run leaves behind; a report that it wrote is among the files. -/
structure Outcome where
  ending : Ending
  screen : List Text
  log : List Log.Entry
  files : FileSystem
  written : Option Path

namespace Outcome

def exitCode (o : Outcome) : Nat := o.ending.exitCode

/-- The text of the report that a run wrote. -/
def report? (o : Outcome) : Option Text :=
  match o.written.map fun p => o.files.openFile p.text with
  | some (.ok bytes) => (Utf8.decode bytes).toOption
  | _ => none

end Outcome

/-- Lines on their way to the screen, and what cut them off if there was something. -/
structure Printing where
  lines : List Text
  fault : Option Escape

namespace Printing

def blank : Printing := ⟨[], none⟩

/-- Shows one more item unless a fault came before. -/
def put (screen : Console.Screen) (p : Printing) (item : Console.Item Name) : Printing :=
  match p.fault, screen.shown item with
  | some _, _ => p
  | none, .ok lines => ⟨p.lines ++ lines, none⟩
  | none, .error f => ⟨p.lines, some (.screen f)⟩

/-- Shows items in turn. -/
def putAll (screen : Console.Screen) (p : Printing) (items : List (Console.Item Name)) : Printing :=
  items.foldl (put screen) p

/-- A run that ends with these lines, by its exit code unless a fault cut it off. -/
def outcome (p : Printing) (code : Nat) (log : List Log.Entry) (files : FileSystem) : Outcome :=
  match p.fault with
  | some f => ⟨.escaped f, p.lines, log, files, none⟩
  | none => ⟨.exited code, p.lines, log, files, none⟩

end Printing

namespace Surroundings

/-- A note on the time that reading a watchlist took, for those who ask. -/
def readingNotes (s : Surroundings) : List Log.Entry :=
  let announce := (s.vars.value? Stopwatch.announceVariable).isSome
  (Stopwatch.timed announce "parse_compromised_list".toList [s.reading, s.reading] id (.ok ())).log

end Surroundings

end DependencyAudit.Command
