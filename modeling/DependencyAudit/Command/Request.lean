import DependencyAudit.Path

namespace DependencyAudit.Command

/-- What the program can be asked to do. -/
inductive Verb where
  | scan
  | check
  | info
deriving DecidableEq

/-- What an option of a command line sets. -/
inductive Setting where
  | root
  | jsonOut
  | listFile
  | listUrl
  | verbose
  | performance
  | help
deriving DecidableEq

namespace Verb

def all : List Verb := [.scan, .check, .info]

def name : Verb → Text
  | .scan => "scan".toList
  | .check => "check".toList
  | .info => "info".toList

def settings : Verb → List Setting
  | .scan => [.root, .jsonOut, .listFile, .listUrl, .verbose, .performance, .help]
  | .check => [.listFile, .help]
  | .info => [.listFile, .listUrl, .help]

/-- How many words a verb wants besides its options. -/
def arity : Verb → Nat
  | .check => 2
  | .scan | .info => 0

end Verb

namespace Setting

def spelling : Setting → Text
  | .root => "--root".toList
  | .jsonOut => "--json-out".toList
  | .listFile => "--compromised-file".toList
  | .listUrl => "--compromised-url".toList
  | .verbose => "--verbose".toList
  | .performance => "--performance".toList
  | .help => "--help".toList

def letter? : Setting → Option Char
  | .verbose => some 'v'
  | _ => none

def takesValue : Setting → Bool
  | .root | .jsonOut | .listFile | .listUrl => true
  | .verbose | .performance | .help => false

def isPath : Setting → Bool
  | .root | .jsonOut | .listFile => true
  | .listUrl | .verbose | .performance | .help => false

/-- The variable that stands in for an option that is not given. -/
def fallback? : Setting → Option Text
  | .listFile => some "HOF_SCANNER_COMPROMISED_FILE".toList
  | .listUrl => some "HOF_SCANNER_COMPROMISED_URL".toList
  | _ => none

end Setting

/-- What one word of a command line is. -/
inductive Word where
  | positional
  | separator
  | switches (settings : List Setting)
  | valued (setting : Setting) (value : Text)
  | awaiting (setting : Setting)
  | unknown

/-- A word that starts with a hyphen and goes on is an option. -/
def isOption (w : Text) : Bool :=
  match w with
  | '-' :: _ :: _ => true
  | _ => false

def separator : Text := ['-', '-']

def findLong? (v : Verb) (w : Text) : Option Setting := v.settings.find? (·.spelling = w)

def findLetter? (v : Verb) (c : Char) : Option Setting := v.settings.find? (·.letter? = some c)

/-- Reads one word. A long option may carry its value after an equals sign, and letters may stand together after one
hyphen. -/
def readWord (v : Verb) (w : Text) : Word :=
  if w = separator then .separator
  else if !isOption w then .positional
  else
    let (name, value) := match Text.cutFirst '=' w with
      | some (name, value) => (name, some value)
      | none => (w, none)
    match findLong? v name, value with
    | some s, some value => if s.takesValue then .valued s value else .unknown
    | some s, none => if s.takesValue then .awaiting s else .switches [s]
    | none, _ =>
      match w with
      | '-' :: '-' :: _ => .unknown
      | _ =>
        match w.tail.mapM (findLetter? v) with
        | some settings => .switches settings
        | none => .unknown

/-- The settings made by a command line, in order, and its other words. -/
structure Words where
  made : List (Setting × Text)
  positionals : List Text

def Words.set (s : Setting) (value : Text) (ws : Words) : Words := { ws with made := (s, value) :: ws.made }

/-- Reads the words after a verb; none if one is unknown or a value is missing. A word that is awaited as a value is
taken whatever it is, and after the separator there are no options. -/
def readWords (v : Verb) : Option Setting → List Text → Option Words
  | none, [] => some ⟨[], []⟩
  | some _, [] => none
  | some s, w :: ws => (readWords v none ws).map (·.set s w)
  | none, w :: ws =>
    match readWord v w with
    | .separator => some ⟨[], ws⟩
    | .positional => (readWords v none ws).map fun r => { r with positionals := w :: r.positionals }
    | .switches settings => (readWords v none ws).map fun r => settings.foldr (fun s r => r.set s []) r
    | .valued s value => (readWords v none ws).map (·.set s value)
    | .awaiting s => readWords v (some s) ws
    | .unknown => none

namespace Words

/-- The value of a setting; of several the last counts. -/
def value? (ws : Words) (s : Setting) : Option Text := (ws.made.reverse.find? (·.1 = s)).map (·.2)

def isSet (ws : Words) (s : Setting) : Bool := (ws.value? s).isSome

end Words

/-- Named values around a run. -/
abbrev Variables := List (Text × Text)

/-- The value of a variable unless it is empty. -/
def Variables.value? (vars : Variables) (name : Text) : Option Text :=
  ((vars.find? (·.1 = name)).map (·.2)).filter (· ≠ [])

/-- The value of a setting: the one given, else that of its variable. -/
def settingValue? (vars : Variables) (ws : Words) (s : Setting) : Option Text :=
  match ws.value? s with
  | some value => some value
  | none => s.fallback?.bind vars.value?

/-- What is asked of a scan. -/
structure ScanOptions where
  root : Option Path
  jsonOut : Option Path
  listFile : Option Path
  listUrl : Option Text
  verbose : Bool
  performance : Bool
deriving DecidableEq

/-- A command line understood. -/
inductive Request where
  | scan (options : ScanOptions)
  | check (package version : Text) (listFile : Option Path)
  | info (listFile : Option Path) (listUrl : Option Text)
  | help
deriving DecidableEq

/-- The request that a verb and its words make; none if words are missing or too many. No path holds a null
character. -/
def Verb.request? (v : Verb) (vars : Variables) (ws : Words) : Option Request :=
  let value? := settingValue? vars ws
  let path? (s : Setting) : Option Path := (value? s).map fun value : Text => Path.ofText value
  if ws.isSet .help then some .help
  else if v.settings.any fun s => s.isPath && (value? s).any (·.contains '\x00') then none
  else if ws.positionals.length ≠ v.arity then none
  else
    match v, ws.positionals with
    | .scan, _ => some (.scan ⟨path? .root, path? .jsonOut, path? .listFile, value? .listUrl, ws.isSet .verbose,
        ws.isSet .performance⟩)
    | .check, [package, version] => some (.check package version (path? .listFile))
    | .check, _ => none
    | .info, _ => some (.info (path? .listFile) (value? .listUrl))

/-- Reads a command line up to its verb, then the words of the verb. Before the verb only a call for help and the
separator can stand. -/
def Request.read? (vars : Variables) (help : Bool) : List Text → Option Request
  | [] => if help then some .help else none
  | w :: ws =>
    if isOption w ∧ w ≠ separator then
      if w = Setting.help.spelling then Request.read? vars true ws else none
    else if help then some .help
    else
      let words := if w = separator then ws else w :: ws
      match words with
      | [] => none
      | name :: rest =>
        match Verb.all.find? (·.name = name) with
        | none => none
        | some v => (readWords v none rest).bind (v.request? vars)

/-- The request that the words of a command line make; none if they are not understood. -/
def Request.ofWords? (vars : Variables) (words : List Text) : Option Request := Request.read? vars false words

end DependencyAudit.Command
