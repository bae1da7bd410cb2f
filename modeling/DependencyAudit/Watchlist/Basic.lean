import DependencyAudit.Watchlist.Record

namespace DependencyAudit

/-- The compromised versions of one package, in increasing order. -/
structure Listing where
  name : Text
  versions : List Text
deriving DecidableEq

/-- The versions to look for, in two views: by package name and as a set of record keys. Both are kept in
increasing order, so that equal contents are equal values. -/
@[ext] structure Watchlist where
  listings : List Listing
  keys : List Text
deriving DecidableEq

namespace Watchlist

def empty : Watchlist := ⟨[], []⟩

/-- Adds a version to the listing of its name, which is opened where it belongs if there is none. -/
def addListing (name version : Text) : List Listing → List Listing
  | [] => [⟨name, [version]⟩]
  | l :: ls =>
    if name = l.name then ⟨name, Text.insertSorted version l.versions⟩ :: ls
    else if name < l.name then ⟨name, [version]⟩ :: l :: ls
    else l :: addListing name version ls

def add (w : Watchlist) (r : Record) : Watchlist :=
  ⟨addListing r.name r.version w.listings, Text.insertSorted r.key w.keys⟩

def ofRecords (records : List Record) : Watchlist := records.foldl add empty

/-- The watchlist that a list's text describes. -/
def parse (text : Text) : Watchlist := ofRecords (Record.readAll text)

/-- A watchlist from two views given on their own; of two listings of one name the later holds. -/
def ofViews (listings : List Listing) (keys : List Text) : Watchlist :=
  let put (done : List Listing) (l : Listing) : List Listing :=
    let others := done.filter (·.name ≠ l.name)
    let versions := l.versions.foldl (fun vs v => Text.insertSorted v vs) []
    others.takeWhile (·.name < l.name) ++ ⟨l.name, versions⟩ :: others.dropWhile (·.name < l.name)
  ⟨listings.foldl put [], keys.foldl (fun ks k => Text.insertSorted k ks) []⟩

def versionsOf (w : Watchlist) (name : Text) : List Text :=
  match w.listings.find? (·.name = name) with
  | some l => l.versions
  | none => []

/-- Whether a package version is on the list, by either view. -/
def flags (w : Watchlist) (name version : Text) : Bool :=
  w.keys.contains (Record.key ⟨name, version⟩) || (w.versionsOf name).contains version

def packageCount (w : Watchlist) : Nat := w.listings.length

def versionCount (w : Watchlist) : Nat := w.listings.foldr (fun l n => l.versions.length + n) 0

/-- Whether any package is listed by name. -/
def isPopulated (w : Watchlist) : Bool := !w.listings.isEmpty

end Watchlist

end DependencyAudit
