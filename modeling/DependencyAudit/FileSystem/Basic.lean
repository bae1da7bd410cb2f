import DependencyAudit.FileSystem.Fault
import DependencyAudit.FileSystem.Node
import DependencyAudit.Text.Lines

namespace DependencyAudit

/-- What the system refuses where the tree would allow it, by the place: to open a file for reading or for writing, and to
take more than so many bytes of what is written to it. -/
structure Denials where
  read : List Name → Option OsFault
  write : List Name → Option OsFault
  fill : List Name → Option (Nat × OsFault)

def Denials.none : Denials := ⟨fun _ => .none, fun _ => .none, fun _ => .none⟩

/-- A file tree that hangs at a base, and a working directory; both places are given by their plain names from the top.
Above the base there is nothing but the way up. The working directory may have been removed. -/
structure FileSystem where
  base : List Name
  tree : Node
  here : List Name
  denials : Denials

namespace FileSystem

def maxNameBytes : Nat := 255

/-- A whole path has no more bytes than that. -/
def maxPathBytes : Nat := 4095

/-- So many links are followed on the way to one file. -/
def maxLinks : Nat := 40

/-- The names between slashes, dots included. -/
def namesOf (t : Name) : List Name := (t.splitOn Name.slash).filter (· ≠ [])

def isAbsolute (t : Name) : Bool := t.head? = some Name.slash

def tooLong (name : Name) : Bool := maxNameBytes < name.bytes.length

def pathTooLong (t : Name) : Bool := maxPathBytes < t.bytes.length

/-- What stands at a place. -/
def at? (fs : FileSystem) (place : List Name) : Option Node :=
  match fs.base.isPrefixOf? place with
  | some below => fs.tree.at? below
  | none => if place.isPrefixOf fs.base then some Node.emptyDirectory else none

/-- Where to start from for names from the top, and the names still to follow. The base is reached only by its whole
name. -/
def entrance (fs : FileSystem) (names : List Name) : List Name × List Name :=
  match fs.base.isPrefixOf? names with
  | some below => (fs.base, below)
  | none => ([], names)

/-- The directory at a place, for stepping into it. -/
def directoryAt (fs : FileSystem) (place : List Name) : Except OsFault Node :=
  match fs.at? place with
  | some (.directory l es) => .ok (.directory l es)
  | some _ => .error .notDirectory
  | none => .error .notFound

/-- Where names lead: to a directory, or to a name in a directory with what stands there now. -/
inductive Target where
  | directory (place : List Name)
  | entry (place : List Name) (name : Name) (found : Option Node)

/-- The names of a link's target; a slash at its end asks for a directory. -/
def linkNames (target : Name) : List Name :=
  namesOf target ++ if target.getLast? = some Name.slash then [Path.dot] else []

/-- The place and the names to go on with behind a link that stands at a place. -/
def behindLink (fs : FileSystem) (place : List Name) (target : Name) (rest : List Name) : List Name × List Name :=
  let names := linkNames target ++ rest
  if isAbsolute target then fs.entrance names else (place, names)

/-- Follows names from a place. At a link the rest of the way, the link's names first, is left to `again`. -/
def follow (fs : FileSystem) (again : List Name → List Name → Except OsFault Target) (place : List Name) :
    List Name → Except OsFault Target
  | [] => .ok (.directory place)
  | name :: rest =>
    match fs.directoryAt place with
    | .error e => .error e
    | .ok directory =>
      if name = Path.dot then follow fs again place rest
      else if name = Path.dotDot then follow fs again place.dropLast rest
      else if tooLong name then .error .nameTooLong
      else
        match directory.child? name with
        | some (.link target) => let (start, names) := fs.behindLink place target rest; again start names
        | found =>
          if rest = [] then .ok (.entry place name found)
          else if found.isNone then .error .notFound
          else follow fs again (place ++ [name]) rest

/-- Follows names through at most so many links. -/
def reach (fs : FileSystem) : Nat → List Name → List Name → Except OsFault Target
  | 0 => fs.follow fun _ _ => .error .tooManyLinks
  | budget + 1 => fs.follow (fs.reach budget)

/-- Where a text leads as a path. -/
def target (fs : FileSystem) (t : Name) : Except OsFault Target :=
  if pathTooLong t then .error .nameTooLong
  else if t = [] then .error .notFound
  else
    let (start, names) := if isAbsolute t then fs.entrance (namesOf t) else (fs.here, namesOf t)
    fs.reach maxLinks start names

/-- The plain place of what stands at a target. -/
def Target.place? : Target → Except OsFault (List Name)
  | .directory place => .ok place
  | .entry _ _ none => .error .notFound
  | .entry place name (some _) => .ok (place ++ [name])

/-- The plain place of what stands at a path, links followed. -/
def placeOf (fs : FileSystem) (t : Name) : Except OsFault (List Name) := (fs.target t).bind Target.place?

/-- What stands at the place that a path leads to. A path with a slash at its end means a directory. -/
def standingAt (fs : FileSystem) (t : Name) (place : List Name) : Except OsFault Node :=
  match fs.at? place with
  | none => .error .notFound
  | some n => if t.getLast? = some Name.slash ∧ ¬ n.isDirectory then .error .notDirectory else .ok n

/-- What stands at a path, links followed. -/
def stat (fs : FileSystem) (t : Name) : Except OsFault Node := (fs.placeOf t).bind (fs.standingAt t)

/-- What reading at a path gives. -/
def read (fs : FileSystem) (t : Name) : Except OsFault (List UInt8) :=
  (fs.placeOf t).bind fun place => (fs.standingAt t place).bind fun n =>
    match fs.denials.read place with
    | some e => .error e
    | none => n.content

/-- The bytes of the file at a path. -/
def openFile (fs : FileSystem) (t : Name) : Except OpenFault (List UInt8) :=
  if t.contains Name.null then .error .nullByte else (fs.read t).mapError fun e => .os ⟨e, some t⟩

/-- The text of file content: strict decoding, then line feeds for all line ends. -/
def textOf (bytes : List UInt8) : Except Utf8.Fault Text := (Utf8.decode bytes).map Text.unifyBreaks

/-- A name in a directory that is open for writing, with what stands there. -/
structure Opening where
  place : List Name
  name : Name
  found : Option Node

/-- Opens what a path leads to for writing. -/
def openToWrite (fs : FileSystem) (t : Name) : Except OsFault Opening :=
  match fs.target t with
  | .error e => .error e
  | .ok (.directory _) => .error .isDirectory
  | .ok (.entry place name found) =>
    if found.any (·.isDirectory) ∨ t.getLast? = some Name.slash then .error .isDirectory
    else
      match fs.denials.write (place ++ [name]) with
      | some e => .error e
      | none => if fs.base.isPrefixOf place then .ok ⟨place, name, found⟩ else .error .notFound

/-- As many of some bytes as go below a limit, and what is said of the rest. -/
def taken (limit : Option (Nat × OsFault)) (bytes : List UInt8) : List UInt8 × Option OsFault :=
  match limit with
  | some (room, e) => if room < bytes.length then (bytes.take room, some e) else (bytes, none)
  | none => (bytes, none)

/-- Puts a file at a name in a directory. -/
def put (fs : FileSystem) (place : List Name) (name : Name) (bytes : List UInt8) : FileSystem :=
  let filled (e : Option (Entry Node)) : Entry Node :=
    match e with
    | some e => { e with node := .file bytes }
    | none => ⟨name, false, false, .file bytes⟩
  { fs with tree := fs.tree.edit (place.drop fs.base.length ++ [name]) filled }

/-- The files after something was to be written, the bytes that were taken, and why not all were if so. -/
structure Stored where
  files : FileSystem
  sent : List UInt8
  fault : Option OpenFault

/-- Writes a file, made if it is missing and emptied first if it is there. A special file stays what it is. -/
def writeFile (fs : FileSystem) (t : Name) (bytes : List UInt8) : Stored :=
  if t.contains Name.null then ⟨fs, [], some .nullByte⟩
  else
    match fs.openToWrite t with
    | .error e => ⟨fs, [], some (.os ⟨e, some t⟩)⟩
    | .ok o =>
      let (sent, fault) := taken (fs.denials.fill (o.place ++ [o.name])) bytes
      ⟨if o.found.any (·.isSpecial) then fs else fs.put o.place o.name sent, sent, fault.map fun e => .os ⟨e, none⟩⟩

/-- Drops dots and takes back a name at each double dot. -/
def flatten (names : List Name) : List Name :=
  names.foldl (fun done n =>
    if n = [] ∨ n = Path.dot then done else if n = Path.dotDot then done.dropLast else done ++ [n]) []

/-- Links met while resolving, by the spelling they were met in, each with where it leads once that is known. -/
abbrev Trail := List (Path × Option Path)

/-- Where parts of a path lead. An incomplete place has parts that were not followed. -/
structure Resolved where
  place : Path
  trail : Trail
  complete : Bool

/-- Parts of a path written behind a place. Parts that begin with an empty one were written with a slash in front: they
start at the top. -/
def behind (place : Path) (parts : List Name) : Path :=
  match parts with
  | [] :: next :: rest => ⟨Anchor.ofText (Path.joined parts), next :: rest⟩
  | _ => ⟨place.anchor, place.names ++ parts⟩

/-- The place above; above the working directory the way up stays as it is. -/
def parent (place : Path) : Path :=
  if place.anchor = .relative ∧ (place.names = [] ∨ place.names.getLast? = some Path.dotDot) then
    place.child Path.dotDot
  else ⟨place.anchor, place.names.dropLast⟩

/-- The place that a path means when seen from the working directory. -/
def absolute (here : List Name) (p : Path) : Path :=
  if p.anchor = .relative then ⟨.root, flatten (here ++ p.names)⟩ else ⟨p.anchor, flatten p.names⟩

/-- What stands at a path whose names lead through no link. -/
def standing? (fs : FileSystem) (p : Path) : Option Node := fs.at? (absolute fs.here p).names

/-- Resolves the parts of a path from a place whether or not they exist; what a link leads to is left to `inner`. A link
met again before it is known where it leads ends the work: the parts still to come stay as they are. -/
def resolveParts (fs : FileSystem) (inner : Trail → Path → List Name → Resolved) (trail : Trail)
    (place : Path) : List Name → Resolved
  | [] => ⟨place, trail, true⟩
  | name :: rest =>
    if name = [] ∨ name = Path.dot then resolveParts fs inner trail place rest
    else if name = Path.dotDot then resolveParts fs inner trail (parent place) rest
    else
      let next := place.child name
      match fs.standing? next with
      | some (.link target) =>
        match trail.find? (·.1 = next) with
        | some (_, some known) => resolveParts fs inner trail known rest
        | some (_, none) => ⟨behind next rest, trail, false⟩
        | none =>
          let led := inner ((next, none) :: trail) (if isAbsolute target then ⟨.root, []⟩ else place)
            (target.splitOn Name.slash)
          if led.complete then resolveParts fs inner ((next, some led.place) :: led.trail) led.place rest
          else ⟨behind led.place rest, led.trail, false⟩
      | _ => resolveParts fs inner trail next rest

/-- Resolves parts through links inside links to a depth. -/
def resolveFrom (fs : FileSystem) : Nat → Trail → Path → List Name → Resolved
  | 0 => fun trail place parts => ⟨behind place parts, trail, false⟩
  | depth + 1 => resolveParts fs (resolveFrom fs depth)

/-- No way is deeper: a link is spelled from the top, or from the working directory or a place above it. -/
def resolveDepth (fs : FileSystem) : Nat := fs.tree.linkCount * (fs.here.length + 2) + 1

/-- Whether a path starts at a working directory that is gone. -/
def isAdrift (fs : FileSystem) (p : Path) : Bool :=
  p.anchor = .relative && (fs.directoryAt fs.here).toOption.isNone

/-- Where the names of a path lead, as far as links can be followed. -/
def led (fs : FileSystem) (p : Path) : Path :=
  let start : Path := if p.anchor = .relative then Path.here else ⟨.root, []⟩
  absolute fs.here (resolveFrom fs fs.resolveDepth [] start p.names).place

/-- The absolute path without links and dots that a path stands for; its names need not exist. -/
def resolve (fs : FileSystem) (p : Path) : Except ResolveFault Path :=
  if p.names.any (·.contains Name.null) then .error .nullByte
  else if fs.isAdrift p then .error (.os ⟨.notFound, none⟩)
  else
    match fs.stat (fs.led p).text with
    | .error .tooManyLinks => .error (.linkLoop (fs.led p))
    | _ => .ok (fs.led p)

end FileSystem

end DependencyAudit
