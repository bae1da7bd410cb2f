import DependencyAudit.Command.Outcome

namespace DependencyAudit.Command

open Console (Item)

/-- Commands that only read a watchlist log what concerns users. -/
def lookupLevel : Log.Level := .info

/-- A failure to read the watchlist, as these commands tell it. -/
def errorLine (f : Failure) : Item Name :=
  .line [.markup "[red]Error: ".toList, .literal f.message, .markup "[/red]".toList]

/-- A failure to read the watchlist is told and ends the command; any other failure goes through it. -/
def listFailed (s : Surroundings) (p : Printing) (f : Failure) (log : List Log.Entry) : Outcome :=
  match f with
  | .listUnreadable _ _ => (p.put s.screen (errorLine f)).outcome Verdict.internalError.exitCode log s.site.files
  | _ => ⟨.escaped (.failure f), p.lines, log, s.site.files, none⟩

/-- What is told of a version that is on the list. -/
def listedLine (package version : Text) : Item Name :=
  .line [.markup "[red]".toList, .literal (package ++ '@' :: version), .markup " is compromised[/red]".toList]

/-- What is told of a version that is not on the list. -/
def unlistedLine (package version : Text) : Item Name :=
  .line [.markup "[green]".toList, .literal (package ++ '@' :: version),
    .markup " is not on the compromised list[/green]".toList]

/-- The listed versions of a package. The package and the versions are literal each on its own. -/
def knownLine (package : Text) (versions : List Text) : Item Name :=
  .line [.markup "  Compromised versions of ".toList, .literal package, .markup ": ".toList,
    .literal (Text.joinWith ", " versions)]

/-- Tells whether one package version is on the list, and the versions listed if it is not. -/
def check (s : Surroundings) (package version : Text) (listFile : Option Path) : Outcome :=
  let files := s.site.files
  let source := ListSource.ofFile? listFile
  match source.load files with
  | .error f => listFailed s .blank f []
  | .ok w =>
    let log := Log.passing lookupLevel (s.readingNotes ++ [source.loaded w])
    if w.flags package version then
      (Printing.blank.put s.screen (listedLine package version)).outcome Verdict.findings.exitCode log files
    else
      let told := Printing.blank.put s.screen (unlistedLine package version)
      let known := w.versionsOf package
      let told := if known = [] then told else told.put s.screen (knownLine package known)
      told.outcome Verdict.clean.exitCode log files

/-- What the program is, in a frame just wide enough, and what it looks at. -/
def introduction (depth : Nat) : List (Item Name) :=
  let ignored := Walk.ignoredTexts.foldl (fun sorted n => Text.insertSorted n sorted) []
  [.fitting "Information".toList (Text.joinWith "\n" [
      "[bold blue]".toList ++ Report.scannerName ++ "[/bold blue] ".toList ++ Report.scannerVersion,
      "Detects known-compromised npm package versions in".toList, "package.json and yarn.lock files".toList]),
    .line [.markup ("\n[bold]Scanned files:[/bold] ".toList ++
      Text.joinWith ", " (ParserTable.standard depth).fileNames)],
    .line [.markup ("[bold]Ignored directories:[/bold] ".toList ++ Text.joinWith ", " ignored)]]

/-- How much is on a list. -/
def countLines (source : Name) (w : Watchlist) : List (Item Name) :=
  [.line [.markup "[bold]Compromised list:[/bold] ".toList, .literal source],
    .line [.markup ("   ".toList ++ Text.decimal w.packageCount ++ " packages, ".toList ++
      Text.decimal w.versionCount ++ " versions".toList)]]

/-- Introduces the program and counts what is on the list. -/
def info (s : Surroundings) (listFile : Option Path) (listUrl : Option Text) : Outcome :=
  let files := s.site.files
  let opening := Printing.blank.putAll s.screen (introduction s.site.depth)
  let counted (source : Name) (w : Watchlist) (log : List Log.Entry) : Outcome :=
    (opening.putAll s.screen (countLines source w)).outcome Verdict.clean.exitCode
      (Log.passing lookupLevel (s.readingNotes ++ log)) files
  match listUrl.filter (· ≠ []) with
  | some url =>
    let f := Download.fetchOnce s.site.replies url
    match f.result with
    | .error e => listFailed s opening (.transfer e) (Log.passing lookupLevel f.log)
    | .ok w => counted url w f.log
  | none =>
    let source := ListSource.ofFile? listFile
    match source.load files with
    | .error f => listFailed s opening f []
    | .ok w => counted source.label w [source.loaded w]

end DependencyAudit.Command
