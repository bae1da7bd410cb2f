import DependencyAudit.FileKind
import DependencyAudit.Finding
import DependencyAudit.Json.Basic
import DependencyAudit.Watchlist.Basic

namespace DependencyAudit

/-- How an audit ends, as an exit code tells it. -/
inductive Verdict where
  | clean
  | findings
  | internalError
  | inconclusive
deriving DecidableEq

namespace Verdict

def exitCode : Verdict → Nat
  | .clean => 0
  | .findings => 1
  | .internalError => 2
  | .inconclusive => 3

/-- Nothing scanned is inconclusive whatever was found; otherwise any finding fails the audit. -/
def ofCounts (findings scanned : Int) : Verdict :=
  if scanned = 0 then .inconclusive else if findings ≠ 0 then .findings else .clean

end Verdict

/-- The result of one audit. -/
structure Report where
  root : Path
  findings : List Finding
  scanned : List Candidate
  packageCount : Nat
  versionCount : Nat
  generatedAt : Text
  scanner : Text
  version : Text

namespace Report

def scannerName : Text := "hof-vulnerabilities-scanner".toList

def scannerVersion : Text := "1.0.0".toList

def ofParts (w : Watchlist) (root : Path) (findings : List Finding) (scanned : List Candidate)
    (generatedAt : Text) : Report :=
  ⟨root, findings, scanned, w.packageCount, w.versionCount, generatedAt, scannerName, scannerVersion⟩

def verdict (r : Report) : Verdict := .ofCounts r.findings.length r.scanned.length

def isInconclusive (r : Report) : Bool := r.scanned.isEmpty

def passed (r : Report) : Bool := r.findings.isEmpty && !r.isInconclusive

def reason? (r : Report) : Option Text :=
  if r.isInconclusive then some "No package or lock files found; scan inconclusive.".toList else none

end Report

/-- A member of a JSON object. -/
def Json.member (name : String) (value : Json) : List CodePoint × Json := (CodePoint.ofText name.toList, value)

def Finding.toJson (f : Finding) (root : Option Path) : Json :=
  .object ([
    Json.member "package" (.ofText f.name),
    Json.member "version" (.ofText f.version),
    Json.member "file" (.string f.file.text),
    Json.member "fileRelative" (.string (f.file.relativeText root)),
    Json.member "source" (.ofText f.source),
    Json.member "spec" (.ofText f.spec)] ++
    match f.group with
    | some g => [Json.member "section" (.ofText g)]
    | none => [])

def Candidate.toJson (c : Candidate) (root : Path) : Json :=
  .object [
    Json.member "path" (.string c.path.text),
    Json.member "relative" (.string (c.path.relativeText (some root))),
    Json.member "type" (.string c.path.name)]

namespace Report

def metaJson (r : Report) : Json :=
  .object ([
    Json.member "generatedAt" (.ofText r.generatedAt),
    Json.member "root" (.string r.root.text),
    Json.member "scanner" (.ofText r.scanner),
    Json.member "version" (.ofText r.version),
    Json.member "scannedFilesCount" (.integer r.scanned.length),
    Json.member "findingsCount" (.integer r.findings.length),
    Json.member "compromisedPackageCount" (.integer r.packageCount),
    Json.member "compromisedVersionCount" (.integer r.versionCount),
    Json.member "exitCode" (.integer r.verdict.exitCode),
    Json.member "passedScan" (.bool r.passed)] ++
    match r.reason? with
    | some text => [Json.member "reason" (.ofText text)]
    | none => [])

/-- The report as it is written: what it is about, the findings, and the files read. -/
def toJson (r : Report) : Json :=
  .object [
    Json.member "meta" r.metaJson,
    Json.member "vulnerabilities" (.array (r.findings.map (·.toJson (some r.root)))),
    Json.member "scannedFiles" (.array (r.scanned.map (·.toJson r.root)))]

end Report

end DependencyAudit
