import DependencyAudit.Command.Run
import DependencyAudit.Snapshot

namespace DependencyAudit.Program

/-- The lines of a stream up to its end, without their line feeds. -/
partial def readLines (input : IO.FS.Stream) (done : List Text) : IO (List Text) := do
  let line ← input.getLine
  if line.isEmpty then return done.reverse
  let text := line.toList
  readLines input ((if text.getLast? = some '\n' then text.dropLast else text) :: done)

def variableNames : List Text :=
  [Command.Setting.listFile, .listUrl].filterMap Command.Setting.fallback? ++ [Stopwatch.announceVariable]

def readVariables : IO Command.Variables := do
  let values ← variableNames.mapM fun name => do
    return (name, ((← IO.getEnv (String.ofList name)).getD "").toList)
  return values

def screenWidth : Nat := 80

/-- Manifests are read with so many arrays and objects inside one another. -/
def nestingDepth : Nat := 1000

/-- Runs a command line over the snapshot on standard input. The report follows the screen, which says where it
belongs. -/
def run (args : List String) : IO UInt32 := do
  let lines ← readLines (← IO.getStdin) []
  match Snapshot.empty.read (lines.filter (· ≠ [])) with
  | .error line =>
    IO.eprintln (String.ofList ("Not a line of a snapshot: ".toList ++ line))
    return 2
  | .ok snapshot =>
    let site : Audit.Site := ⟨snapshot.files, snapshot.replies, snapshot.now, nestingDepth⟩
    let surroundings : Command.Surroundings := ⟨site, ← readVariables, .ofWidth screenWidth, .whole 0⟩
    let outcome := Command.run Command.Request.ofWords? surroundings (args.map String.toList)
    for line in outcome.screen do
      IO.println (String.ofList line)
    if let some report := outcome.report? then
      IO.println (String.ofList report)
    for e in outcome.log do
      IO.eprintln (String.ofList (e.logger ++ ": ".toList ++ e.message))
    match outcome.ending with
    | .exited code => return code.toUInt32
    | .escaped e =>
      IO.eprintln (String.ofList e.message.spelled)
      return 1

end DependencyAudit.Program

def main (args : List String) : IO UInt32 := DependencyAudit.Program.run args
