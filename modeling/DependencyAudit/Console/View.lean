import DependencyAudit.Console.Screen
import DependencyAudit.Report

namespace DependencyAudit

open Console (Item)

/-- The line of a finding on the screen. -/
def Finding.headline (f : Finding) : Item Name :=
  .strings [("[Vulnerability Found ❌] ".toList, some "bold red".toList), (f.spec, some "cyan".toList),
    (CodePoint.ofText " in ".toList ++ f.file.text ++ CodePoint.ofText (" (".toList ++ f.source ++ ")".toList), none)]

namespace Report

/-- What the closing frame is titled: findings first, then whether anything was scanned. -/
def title (r : Report) : Text :=
  if r.findings ≠ [] then
    "Found ".toList ++ Text.decimal r.findings.length ++ " compromised package versions!".toList
  else if r.isInconclusive then "Scan inconclusive".toList
  else "No compromised packages found. ✅".toList

/-- The facts of a report, a line each. -/
def facts (r : Report) : Name :=
  CodePoint.ofText "Root: ".toList ++ r.root.text ++ CodePoint.ofText
    ("\nScanned files: ".toList ++ Text.decimal r.scanned.length ++
      "\nFindings: ".toList ++ Text.decimal r.findings.length ++
      "\nCompromised list: ".toList ++ Text.decimal r.versionCount ++ " versions of ".toList ++
        Text.decimal r.packageCount ++ " packages".toList ++
      "\nExit code: ".toList ++ Text.decimal r.verdict.exitCode ++
      match r.reason? with
      | some reason => "\nReason: ".toList ++ reason
      | none => [])

/-- A report on a screen: the counts, every finding, and the facts in a frame. -/
def items (r : Report) : List (Item Name) :=
  let count (what : String) (n : Nat) : Item Name := .line [.markup (what.toList ++ Text.decimal n)]
  [count "Scanned files: " r.scanned.length, count "vulnerabilities: " r.findings.length] ++
    r.findings.map Finding.headline ++ [.panel (some r.title) [(r.facts, none)]]

end Report

namespace Console

/-- An error on a screen, with its details after an empty line if there are any. -/
def errorItem (error : Name) (details : Text) : Item Name :=
  .panel none ([(CodePoint.ofText "Error: ".toList, some "bold red".toList), (error, none)] ++
    if details = [] then [] else [(CodePoint.ofText ('\n' :: '\n' :: details), some "dim".toList)])

end Console

end DependencyAudit
