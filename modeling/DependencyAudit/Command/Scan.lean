import DependencyAudit.Command.Outcome

namespace DependencyAudit.Command

open Console (Item)

/-- Where the report goes unless another place is asked for. -/
def defaultJsonOut : Path := Path.ofText "scan-results.json".toList

/-- So many files are read at once. -/
def readingLimit : Int := 8

def ScanOptions.level (o : ScanOptions) : Log.Level := if o.verbose then .debug else .warning

def ScanOptions.config (o : ScanOptions) (fs : FileSystem) : Except Failure Audit.Config :=
  Audit.Config.make fs (o.root.getD Path.here) (o.jsonOut.getD defaultJsonOut) o.listFile o.listUrl readingLimit

/-- An audit as a command runs it: where its report goes and the report, or why there is none. -/
structure Audited where
  result : Except Failure (Path × Report)
  log : List Log.Entry

def audit (s : Surroundings) (o : ScanOptions) : Audited :=
  match o.config s.site.files with
  | .error f => ⟨.error f, []⟩
  | .ok config =>
    let run := Audit.scan s.site config none none
    match run.result with
    | .error f => ⟨.error f, run.log⟩
    | .ok report => ⟨.ok (config.jsonOut, report), s.readingNotes ++ run.log⟩

def programLogger : String := "CLI"

/-- How a failed audit is told on the screen and in the log. An unexpected failure is spelled out. -/
def failureTold (f : Failure) : Item Name × Log.Entry :=
  if f.isExpected then
    (Console.errorItem f.message [],
      Log.entry programLogger .error ["Scanner failed: ".toList, f.message.spelled])
  else
    (Console.errorItem "Unexpected internal failure".toList f.spelled,
      Log.entry programLogger .error ["Scanner failed unexpectedly: ".toList, f.spelled])

/-- The measured phases of an audit. -/
def phases : List Text := ["load_registry".toList, "walk".toList, "parse".toList, "assemble".toList]

def phaseTimes (reading : Seconds) : Except RangeFault Stopwatch :=
  phases.foldlM Stopwatch.lap (Stopwatch.start true (List.replicate (2 * phases.length) reading))

def summaryHeading : Item Name := .line [.markup "\n[bold cyan]Performance Summary:[/bold cyan]".toList]

/-- The times of the phases for those who ask. -/
def phaseSummary (p : Printing) (o : ScanOptions) (s : Surroundings) : Printing :=
  if o.performance then
    let headed := p.put s.screen summaryHeading
    match headed.fault, (phaseTimes s.reading).bind (·.summary?) with
    | none, .error f => { headed with fault := some (.timing f) }
    | none, .ok (some table) => headed.put s.screen table
    | _, _ => headed
  else p

def writtenLine (path : Path) : Item Name := .line [.markup "JSON results written to: ".toList, .literal path.text]

/-- Scans, tells the report and saves it. The exit code is the report's, whether or not the files take the report;
without a report nothing is saved. -/
def scan (s : Surroundings) (o : ScanOptions) : Outcome :=
  let audited := audit s o
  let passing (more : List Log.Entry) : List Log.Entry := Log.passing o.level (audited.log ++ more)
  match audited.result with
  | .error f =>
    let (panel, note) := failureTold f
    (Printing.blank.put s.screen panel).outcome Verdict.internalError.exitCode (passing [note]) s.site.files
  | .ok (jsonOut, report) =>
    let shown := Printing.blank.putAll s.screen report.items
    let code := report.verdict.exitCode
    if shown.fault.isSome then shown.outcome code (passing []) s.site.files
    else
      let saved := Json.save s.site.files none (some jsonOut) report.toJson
      match saved.result with
      | .ok path =>
        let told := shown.put s.screen (writtenLine path)
        { (phaseSummary told o s).outcome code (passing saved.log) saved.files with written := some path }
      | .error (.refused (.os e)) =>
        let note := Log.entry programLogger .warning ["Failed to write JSON results: ".toList, e.message]
        (phaseSummary shown o s).outcome code (passing [note]) saved.files
      | .error f => ⟨.escaped (.saving f), shown.lines, passing [], saved.files, none⟩

end DependencyAudit.Command
