import DependencyAudit.Collector
import DependencyAudit.ParserTable
import DependencyAudit.Report
import DependencyAudit.Timestamp
import DependencyAudit.Walk
import DependencyAudit.Watchlist.Source

namespace DependencyAudit.Audit

/-- The settings of an audit, with every path resolved but that of the list. -/
structure Config where
  root : Path
  jsonOut : Path
  listFile : Option Path
  listUrl : Option Text
  limit : Int
deriving DecidableEq

/-- Settings as they are asked for; the limit on files read at once is at least one. -/
def Config.make (fs : FileSystem) (root jsonOut : Path) (listFile : Option Path) (listUrl : Option Text)
    (limit : Int) : Except Failure Config :=
  if limit < 1 then .error (.noConcurrency limit)
  else
    match fs.resolve root, fs.resolve jsonOut with
    | .error f, _ => .error (.ofResolve f)
    | .ok _, .error f => .error (.ofResolve f)
    | .ok root, .ok jsonOut => .ok ⟨root, jsonOut, listFile, listUrl, limit⟩

/-- What an audit meets from outside: the files, the replies of the network, the time, and how deep nesting in a manifest
can be read. -/
structure Site where
  files : FileSystem
  replies : List Download.Reply
  now : Moment
  depth : Nat

structure Loaded where
  result : Except Failure Watchlist
  replies : List Download.Reply
  log : List Log.Entry

/-- Loads the watchlist; an address that is given goes before a file. -/
def loadWatchlist (site : Site) (config : Config) : Loaded :=
  let holds (w : Watchlist) : Log.Entry := Log.entry "Scanner" .debug ["Registry holds ".toList,
    Text.decimal w.versionCount, " versions of ".toList, Text.decimal w.packageCount, " packages".toList]
  match config.listUrl with
  | some (c :: url) =>
    let f := Download.fetchOnce site.replies (c :: url)
    match f.result with
    | .error e => ⟨.error (.transfer e), f.client.replies, f.log⟩
    | .ok w => ⟨.ok w, f.client.replies, f.log ++ [holds w]⟩
  | _ =>
    let source := ListSource.ofFile? config.listFile
    match source.load site.files with
    | .error e => ⟨.error e, site.replies, []⟩
    | .ok w => ⟨.ok w, site.replies, [source.loaded w, holds w]⟩

/-- A candidate file with what opening it gives. -/
structure Submission where
  candidate : Candidate
  readable : Bool
  bytes : List UInt8

def submissions (vs : List Visit) : List Submission :=
  vs.filterMap fun v =>
    match v with
    | .file p readable bytes => (Candidate.ofPath? p).map fun c => ⟨c, readable, bytes⟩
    | _ => none

namespace Submission

def content (s : Submission) : Except ReadFault Text :=
  let path := s.candidate.path.text
  if FileSystem.pathTooLong path then .error (.os ⟨.nameTooLong, path⟩)
  else if s.readable then (FileSystem.textOf s.bytes).mapError .undecodable
  else .error (.os ⟨.permissionDenied, path⟩)

end Submission

/-- The outcome of reading and parsing one candidate. -/
structure FileResult where
  candidate : Candidate
  findings : List Finding
  readable : Bool
  log : List Log.Entry

/-- Reads and parses one file. A file that cannot be read is not scanned; one that cannot be parsed is, with no
findings. -/
def scanFile (table : ParserTable) (w : Watchlist) (s : Submission) : FileResult :=
  match s.content with
  | .error fault => ⟨s.candidate, [], false, [Log.entry "Scanner" .debug
      ["Skipping unreadable file ".toList, s.candidate.path.text.spelled, ": ".toList, fault.message]]⟩
  | .ok text =>
    match table.parse w s.candidate.path text with
    | .error e => ⟨s.candidate, [], true, [Log.entry "Scanner" .warning ["Failed to parse ".toList,
        s.candidate.path.text.spelled, ": ValueError(".toList, Text.quoted e.message, ")".toList]]⟩
    | .ok found => ⟨s.candidate, found, true, []⟩

/-- The report from the results of all files, in the order of the files. -/
def assemble (w : Watchlist) (root : Path) (generatedAt : Text) (results : List FileResult) :
    Report × List Log.Entry :=
  let scanned := (results.filter (·.readable)).map (·.candidate)
  let merge : Collector.Merge Empty := (Collector.start w).merge (results.map fun r => r.findings.map .ok)
  let findings := match merge.result with
    | .ok fs => fs
  (Report.ofParts w root findings scanned generatedAt, merge.log)

/-- Scans the tree at a root with a watchlist at hand. -/
def scanTree (depth : Nat) (w : Watchlist) (root : Path) (start : Except OsFault Node) (generatedAt : Text) :
    Report × List Log.Entry :=
  let visits := Walk.visits Walk.ignoredNames root start
  let submitted := submissions visits
  let results := submitted.map (scanFile (ParserTable.standard depth) w)
  let (report, log) := assemble w root generatedAt results
  let found := Log.entry "Scanner" .debug ["Found ".toList, Text.decimal submitted.length,
    " candidate files under ".toList, root.text.spelled]
  (report, Walk.log visits ++ found :: results.flatMap (·.log) ++ log)

/-- A finished run: a report or why there is none, the log, and the replies left. -/
structure Run where
  result : Except Failure Report
  log : List Log.Entry
  replies : List Download.Reply

/-- What stands at a scan root; nothing there and no directory there are failures of their own. -/
def rootAt (fs : FileSystem) (root : Path) : Except Failure Node :=
  match fs.stat root.text with
  | .ok (.directory l es) => .ok (.directory l es)
  | .ok _ => .error (.rootNotDirectory root)
  | .error .notFound | .error .notDirectory | .error .tooManyLinks => .error (.rootMissing root)
  | .error fault => .error (.os ⟨fault, root.text⟩)

/-- Scans the configured root, or another one; a watchlist at hand is used instead of loading one. -/
def scan (site : Site) (config : Config) (given : Option Watchlist) (root : Option Path) : Run :=
  let resolved : Except Failure Path := match root with
    | none => .ok config.root
    | some r => (site.files.resolve r).mapError Failure.ofResolve
  match resolved with
  | .error f => ⟨.error f, [], site.replies⟩
  | .ok root =>
    match rootAt site.files root with
    | .error f => ⟨.error f, [], site.replies⟩
    | .ok node =>
      let loaded : Loaded := match given with
        | some w => ⟨.ok w, site.replies, []⟩
        | none => loadWatchlist site config
      match loaded.result with
      | .error f => ⟨.error f, loaded.log, loaded.replies⟩
      | .ok w =>
        let (report, log) := scanTree site.depth w root (.ok node) site.now.stamp
        ⟨.ok report, loaded.log ++ log, loaded.replies⟩

/-- One scan that a scanner is sent on: what it meets besides the network, and a root if it is not the configured one. -/
structure Errand where
  files : FileSystem
  now : Moment
  depth : Nat
  root : Option Path

/-- The runs of one scanner on errands in turn. Each takes up the replies of the network where the one before has left
them. -/
def runs (config : Config) (given : Option Watchlist) : List Download.Reply → List Errand → List Run
  | _, [] => []
  | replies, e :: es =>
    let r := scan ⟨e.files, replies, e.now, e.depth⟩ config given e.root
    r :: runs config given r.replies es

end DependencyAudit.Audit
