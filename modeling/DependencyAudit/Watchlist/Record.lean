import DependencyAudit.Text.Lines

namespace DependencyAudit

/-- One compromised version of one package. -/
@[ext] structure Record where
  name : Text
  version : Text
deriving DecidableEq

namespace Record

/-- The key of a record; a name with a colon can share its key with a shorter name. -/
def key (r : Record) : Text := r.name ++ ':' :: r.version

/-- Reads one line: the last colon parts name from version, so that a name may hold colons. Comments, blank
lines and lines without a name or a version give nothing. -/
def ofLine? (line : Text) : Option Record :=
  let t := Text.trim line
  if t.head? = some '#' then none
  else
    match Text.cutLast ':' t with
    | none => none
    | some (before, after) =>
      let name := Text.trim before
      let version := Text.trim after
      if name = [] ∨ version = [] then none else some ⟨name, version⟩

/-- The records of a list, in order and with repetitions. -/
def readAll (text : Text) : List Record := (Text.lines text).filterMap ofLine?

end Record

end DependencyAudit
