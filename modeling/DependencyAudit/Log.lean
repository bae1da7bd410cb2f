import DependencyAudit.Text.Basic

namespace DependencyAudit.Log

inductive Level where
  | debug
  | info
  | warning
  | error
  | critical
deriving DecidableEq

def Level.rank : Level → Int
  | .debug => 10
  | .info => 20
  | .warning => 30
  | .error => 40
  | .critical => 50

def Level.label : Level → Text
  | .debug => "DEBUG".toList
  | .info => "INFO".toList
  | .warning => "WARNING".toList
  | .error => "ERROR".toList
  | .critical => "CRITICAL".toList

structure Entry where
  logger : Text
  level : Level
  message : Text
deriving DecidableEq

def entry (logger : String) (level : Level) (message : List Text) : Entry :=
  ⟨logger.toList, level, message.flatten⟩

/-- Timings are logged on their own, outside the common level. -/
def timingLogger : String := "Performance"

/-- The entries that a common level lets through. -/
def passing (level : Level) (entries : List Entry) : List Entry :=
  entries.filter fun e => e.logger = timingLogger.toList || decide (level.rank ≤ e.level.rank)

/-- A logger in use. It hangs on another one, or on the topmost. An open one has been asked for by its name. -/
structure Logger where
  name : Text
  level : Int
  above : Option Text
  isOpen : Bool
deriving DecidableEq

/-- The loggers in use in the order in which they came into use, the level of the topmost, and the level for those to
be opened. -/
structure Board where
  initial : Int
  topLevel : Int
  loggers : List Logger
deriving DecidableEq

namespace Board

/-- The loggers that the program itself writes to. -/
def ownNames : List Text :=
  ["CLI".toList, "CompromisedListClient".toList, "CompromisedListFile".toList, "ConsoleFormatter".toList,
    "FindingMatcher".toList, "JSONFormatter".toList, "PathUtils".toList, timingLogger.toList, "Scanner".toList]

/-- A board on which no logger has been opened; those of the program are in use. -/
def fresh : Board :=
  ⟨Level.info.rank, Level.warning.rank, ownNames.map fun name => ⟨name, Level.info.rank, none, false⟩⟩

def topName : Text := "root".toList

/-- The topmost logger answers to its name and to none. -/
def isTop (name : Text) : Bool := name = [] || name = topName

def logger? (b : Board) (name : Text) : Option Logger := b.loggers.find? (·.name = name)

def levelOf (b : Board) (l : Logger) : Int := if isTop l.name then b.topLevel else l.level

/-- The level of a logger that is open. -/
def level? (b : Board) (name : Text) : Option Int := ((b.logger? name).filter (·.isOpen)).map b.levelOf

/-- The names of the loggers that are open, with their levels. -/
def levels (b : Board) : List (Text × Int) := (b.loggers.filter (·.isOpen)).map fun l => (l.name, b.levelOf l)

/-- The names above a dotted name, the nearest first. A dot directly before another one parts nothing. -/
def ancestors (name : Text) : List Text :=
  match h : Text.cutLast '.' name with
  | none | some ([], _) => []
  | some (c :: above, _) =>
    have := Text.cutLast_length h
    (c :: above) :: ancestors (c :: above).dropLast
termination_by name.length
decreasing_by
  simp only [List.length_dropLast]
  omega

/-- The logger that a new one hangs on: the nearest one in use above its name. -/
def hook? (b : Board) (name : Text) : Option Text :=
  (ancestors name).find? fun a => !isTop a && (b.logger? a).isSome

/-- A logger after a new one has come into use: one below it moves to it, unless what it hangs on has a name that
starts like the new one. -/
def Logger.rehung (l : Logger) (new : Text) : Logger :=
  if (ancestors l.name).contains new && !new.isPrefixOf (l.above.getD topName) then { l with above := some new } else l

/-- A logger that leaves its level open goes by the one that it hangs on. -/
def openLevel : Int := 0

/-- Brings a logger into use, with its level left open, unless it is in use. -/
def use (b : Board) (name : Text) : Board :=
  if (b.logger? name).isSome then b
  else if isTop name then { b with loggers := b.loggers ++ [⟨name, openLevel, none, false⟩] }
  else { b with loggers := b.loggers.map (Logger.rehung · name) ++ [⟨name, openLevel, b.hook? name, false⟩] }

/-- Gives a logger that is in use a level. -/
def setLevel (b : Board) (name : Text) (level : Int) : Board :=
  { b with
    topLevel := if isTop name && (b.logger? name).isSome then level else b.topLevel
    loggers := b.loggers.map fun l => if l.name = name then { l with level := level } else l }

/-- Opens a logger at the initial level unless it is open. -/
def openLogger (b : Board) (name : Text) : Board :=
  if (b.level? name).isSome then b
  else
    let levelled := (b.use name).setLevel name b.initial
    { levelled with loggers := levelled.loggers.map fun l => if l.name = name then { l with isOpen := true } else l }

/-- Loggers of the network, which a setup leaves at warnings whatever the common level. -/
def networkLoggers : List Text := ["aiohttp".toList, "asyncio".toList]

/-- Gives the open loggers one level, which those opened later start with; verbose means the lowest. -/
def setup (level : Int) (verbose : Bool) (b : Board) : Board :=
  let level := if verbose then Level.debug.rank else level
  let levelled := b.levels.foldl (fun b (name, _) => b.setLevel name level) b
  let quiet := networkLoggers.foldl (fun b name => (b.use name).setLevel name Level.warning.rank) levelled
  { quiet with initial := level }

/-- The level that a logger in use goes by. The one that it hangs on has a shorter name. -/
def effective (b : Board) (name : Text) : Int :=
  match b.logger? name with
  | none => b.topLevel
  | some l =>
    if isTop name then b.topLevel
    else if l.level ≠ openLevel then l.level
    else
      match l.above with
      | none => b.topLevel
      | some above => if above.length < name.length then b.effective above else b.topLevel
termination_by name.length

/-- A message on a logger in use, if its level passes. The topmost logger always signs with its name. -/
def log (b : Board) (name : Text) (level : Level) (message : Text) : List Entry :=
  if (b.logger? name).isSome ∧ b.effective name ≤ level.rank then
    [⟨if isTop name then topName else name, level, message⟩]
  else []

end Board

end DependencyAudit.Log
