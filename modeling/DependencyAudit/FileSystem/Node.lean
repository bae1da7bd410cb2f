import DependencyAudit.FileSystem.Fault

namespace DependencyAudit

/-- A name in a directory. In a walk the check that tells what kind of node it stands for can fail, and a walker may be
barred from opening it. -/
structure Entry (α : Type) where
  name : Name
  checkFails : Bool
  isBarred : Bool
  node : α

/-- A part of a file tree; a directory enumerates its entries in the order given. A special file, such as a device or a
pipe, keeps nothing of what is written to it; its content is what reading it to the end gives. -/
inductive Node where
  | file (bytes : List UInt8)
  | directory (listable : Bool) (entries : List (Entry Node))
  | link (target : Name)
  | special (content : List UInt8)

namespace Node

def emptyDirectory : Node := .directory true []

/-- The device that swallows everything and is always at its end. -/
def nullDevice : Node := .special []

def isDirectory : Node → Bool
  | .directory _ _ => true
  | _ => false

def isSpecial : Node → Bool
  | .special _ => true
  | _ => false

/-- What reading a node to its end gives. -/
def content : Node → Except OsFault (List UInt8)
  | .file bytes => .ok bytes
  | .special content => .ok content
  | .directory _ _ => .error .isDirectory
  | .link _ => .error .tooManyLinks

def entries : Node → List (Entry Node)
  | .directory _ es => es
  | _ => []

def child? (n : Node) (name : Name) : Option Node := (n.entries.find? (·.name = name)).map (·.node)

/-- The node below by plain names, following no link. -/
def at? (n : Node) (names : List Name) : Option Node := names.foldlM child? n

mutual

def linkCount : Node → Nat
  | .directory _ es => linkCounts es
  | .link _ => 1
  | _ => 0

def linkCounts : List (Entry Node) → Nat
  | [] => 0
  | e :: es => e.node.linkCount + linkCounts es

end

/-- Changes the entry of a name where it stands, or appends one. -/
def editEntries (name : Name) (f : Option (Entry Node) → Entry Node) : List (Entry Node) → List (Entry Node)
  | [] => [f none]
  | e :: es => if e.name = name then f (some e) :: es else e :: editEntries name f es

/-- Changes the entry that names lead to; directories that are missing on the way are made. -/
def edit : List Name → (Option (Entry Node) → Entry Node) → Node → Node
  | [name], f, .directory l es => .directory l (editEntries name f es)
  | name :: next :: rest, f, .directory l es =>
    .directory l (editEntries name (fun found =>
      match found with
      | some e => { e with node := edit (next :: rest) f e.node }
      | none => ⟨name, false, false, edit (next :: rest) f emptyDirectory⟩) es)
  | _, _, n => n

/-- Removes the entry that names lead to. -/
def remove : List Name → Node → Node
  | [name], .directory l es => .directory l (es.filter (·.name ≠ name))
  | name :: next :: rest, .directory l es =>
    .directory l (es.map fun e => if e.name = name then { e with node := remove (next :: rest) e.node } else e)
  | _, n => n

end Node

end DependencyAudit
