import DependencyAudit.Finding
import DependencyAudit.Log
import DependencyAudit.Watchlist.Basic

namespace DependencyAudit

/-- Merges the findings of many files and counts what was merged and what was dropped as a repetition. -/
structure Collector where
  watchlist : Watchlist
  merged : Nat
  dropped : Nat

namespace Collector

def start (w : Watchlist) : Collector := ⟨w, 0, 0⟩

/-- What a merge gives: the distinct findings, or the first failure to produce one. -/
structure Merge (ε : Type) where
  result : Except ε (List Finding)
  collector : Collector
  log : List Log.Entry

/-- Merges findings file by file, each of which may fail to be produced; a failed merge counts nothing. -/
def merge {ε : Type} (c : Collector) (files : List (List (Except ε Finding))) : Merge ε :=
  match files.flatten.mapM id with
  | .error e => ⟨.error e, c, []⟩
  | .ok all =>
    let unique := Finding.distinct all
    let repeated := all.length - unique.length
    ⟨.ok unique, { c with merged := c.merged + all.length, dropped := c.dropped + repeated },
      if repeated = 0 then []
      else [Log.entry "FindingMatcher" .debug
        ["Dropped ".toList, Text.decimal repeated, " duplicate findings".toList]]⟩

def flags (c : Collector) (name version : Text) : Bool := c.watchlist.flags name version

/-- What a collector tells of its watchlist and of its merges so far. -/
structure Statistics where
  packages : Nat
  versions : Nat
  merged : Nat
  dropped : Nat
deriving DecidableEq

def statistics (c : Collector) : Statistics :=
  ⟨c.watchlist.packageCount, c.watchlist.versionCount, c.merged, c.dropped⟩

end Collector

end DependencyAudit
