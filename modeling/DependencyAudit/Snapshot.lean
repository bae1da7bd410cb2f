import DependencyAudit.Command.Outcome
import DependencyAudit.Json.Reader

namespace DependencyAudit

/-- What a run finds around it, written down line by line: fields stand between tabs, the first names the kind. -/
structure Snapshot where
  files : FileSystem
  replies : List Download.Reply
  now : Moment

namespace Snapshot

def empty : Snapshot := ⟨⟨[], Node.emptyDirectory, [], Denials.none⟩, [], ⟨1970, 1, 1, 0, 0, 0, 0⟩⟩

/-- Bytes from pairs of hexadecimal digits. -/
def bytes? : Text → Option (List UInt8)
  | [] => some []
  | a :: b :: r =>
    match Json.hexDigit? a, Json.hexDigit? b, bytes? r with
    | some high, some low, some bytes => some ((high * 16 + low).toUInt8 :: bytes)
    | _, _, _ => none
  | _ => none

def text? (hex : Text) : Option Text := (bytes? hex).bind fun bytes => (Utf8.decode bytes).toOption

def number? (t : Text) : Option Nat := (String.ofList t).toNat?

def edit (s : Snapshot) (path : Text) (f : Name → Option (Entry Node) → Entry Node) : Snapshot :=
  let names := Path.components path
  { s with files := { s.files with tree := s.files.tree.edit names (f (names.getLast?.getD [])) } }

/-- Puts a node at an absolute path; what fails to be checked or opened there stays so. -/
def put (s : Snapshot) (path : Text) (node : Node) : Snapshot :=
  s.edit path fun name old => ⟨name, old.any (·.checkFails), old.any (·.isBarred), node⟩

/-- Makes the check of what stands at a path fail. -/
def breakAt (s : Snapshot) (path : Text) : Snapshot :=
  s.edit path fun name old => ⟨name, true, old.any (·.isBarred), (old.map (·.node)).getD (.special [])⟩

/-- Bars walkers from opening what stands at a path. -/
def barAt (s : Snapshot) (path : Text) : Snapshot :=
  s.edit path fun name old => ⟨name, old.any (·.checkFails), true, (old.map (·.node)).getD (.special [])⟩

def reply (s : Snapshot) (r : Download.Reply) : Snapshot := { s with replies := s.replies ++ [r] }

def trouble? (t : Text) : Option Download.Trouble :=
  [("client", .client), ("connection", .connection), ("payload", .payload), ("timeout", .timeout),
    ("value", .value), ("system", .system)].lookup (String.ofList t)

/-- The snapshot after one more line; none if the line is of no known form. -/
def line? (s : Snapshot) (line : Text) : Option Snapshot :=
  match (line.splitOn '\t') with
  | [kind, path] =>
    match String.ofList kind with
    | "here" => some { s with files := { s.files with here := Path.components path } }
    | "directory" => some (s.put path (.directory true []))
    | "closed" => some (s.put path (.directory false []))
    | "pipe" => some (s.put path (.special []))
    | "broken" => some (s.breakAt path)
    | "barred" => some (s.barAt path)
    | _ => none
  | [kind, a, b] =>
    match String.ofList kind with
    | "file" => (bytes? b).map fun bytes => s.put a (.file bytes)
    | "link" => some (s.put a (.link b))
    | "failure" => (trouble? a).map fun trouble => s.reply (.failure ⟨trouble, b⟩)
    | _ => none
  | [kind, status, reason, body] =>
    if String.ofList kind = "reply" then
      match number? status, text? body with
      | some status, some text => some (s.reply (.response status (some reason) (.ok text)))
      | _, _ => none
    else none
  | kind :: fields =>
    if String.ofList kind = "now" then
      match fields.mapM number? with
      | some [year, month, day, hour, minute, second, microsecond] =>
        some { s with now := ⟨year, month, day, hour, minute, second, microsecond⟩ }
      | _ => none
    else none
  | [] => none

/-- The snapshot that lines describe, or the first line that is of no known form. -/
def read (s : Snapshot) : List Text → Except Text Snapshot
  | [] => .ok s
  | l :: ls =>
    match s.line? l with
    | some next => next.read ls
    | none => .error l

end Snapshot

end DependencyAudit
