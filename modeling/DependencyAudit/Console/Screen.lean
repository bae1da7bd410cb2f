import DependencyAudit.Console.Table

namespace DependencyAudit.Console

/-- A part of a line: markup, or a string that shows as it is. -/
inductive Part (α : Type) where
  | markup (t : Text)
  | literal (s : α)

/-- What a screen can be given: strings in styles, a line of markup, a frame as wide as the screen or as its markup, or a
table. -/
inductive Item (α : Type) where
  | strings (pieces : List (α × Option Text))
  | line (parts : List (Part α))
  | panel (title : Option Text) (pieces : List (α × Option Text))
  | fitting (title content : Text)
  | table (title : Text) (header : List Text) (rows : List (List (Part α)))

variable {α β : Type}

namespace Part

def map (f : α → β) : Part α → Part β
  | .markup t => .markup t
  | .literal s => .literal (f s)

def string? : Part α → Option α
  | .markup _ => none
  | .literal s => some s

/-- A part as markup. -/
def source : Part Text → Text
  | .markup t => t
  | .literal t => Markup.escape t

def rendered : Part Text → Except Markup.Fault Styled
  | .markup t => Markup.render t
  | .literal t => .ok (.ofText t)

end Part

namespace Item

def map (f : α → β) : Item α → Item β
  | .strings pieces => .strings (pieces.map fun p => (f p.1, p.2))
  | .line parts => .line (parts.map (·.map f))
  | .panel title pieces => .panel title (pieces.map fun p => (f p.1, p.2))
  | .fitting title content => .fitting title content
  | .table title header rows => .table title header (rows.map (·.map (·.map f)))

/-- The strings in an item, in their order. -/
def all : Item α → List α
  | .strings pieces | .panel _ pieces => pieces.map (·.1)
  | .line parts => parts.filterMap Part.string?
  | .fitting _ _ => []
  | .table _ _ rows => rows.flatten.filterMap Part.string?

def styled (pieces : List (Text × Option Text)) : Styled := pieces.foldl (fun s p => s.append p.1 p.2) (.ofText [])

/-- The lines of an item on a screen of a width. -/
def lines (width : Nat) : Item Text → Except Markup.Fault (List Text)
  | .strings pieces => .ok (printed width (styled pieces))
  | .line parts => printedMarkup width (parts.flatMap Part.source)
  | .panel title pieces => .ok (Console.panel width title (styled pieces))
  | .fitting title content =>
    (Markup.render content).map fun s => Console.panel (min width (fittingWidth s.text)) (some title) s
  | .table title header rows =>
    match rows.mapM (·.mapM Part.rendered) with
    | .error f => .error f
    | .ok rows => ((⟨title, header.map .ofText, rows⟩ : Table).lines width).mapError .number

end Item

/-- Why an item is not shown: its markup is wrong, or it has lone surrogates, for which there are no bytes. -/
inductive Fault where
  | markup (f : Markup.Fault)
  | unencodable (run : LoneRun)
deriving DecidableEq

def Fault.message : Fault → Text
  | .markup f => f.message
  | .unencodable run => run.message ++
      "\n*** You may need to add PYTHONIOENCODING=utf-8 to your environment ***".toList

/-- What shows items, each as lines of its own. -/
structure Screen where
  shown : Item Name → Except Fault (List Text)

/-- The screen of a width. Strings with lone surrogates are laid out with a character in their place that they do not
hold, and then found to have no bytes. -/
def Screen.ofWidth (width : Nat) : Screen where
  shown item :=
    let strings : Name := item.all.flatten
    if strings.isText then ((item.map CodePoint.chars).lines width).mapError .markup
    else
      let mark := strings.standIn
      let marked (n : Name) : Text := n.map fun p => p.char?.getD mark
      match (item.map marked).lines width with
      | .error f => .error (.markup f)
      | .ok lines =>
        let printed := lines.flatMap (· ++ ['\n'])
        let ahead := printed.takeWhile (· ≠ mark)
        match printed.drop ahead.length, strings.loneRun? with
        | _ :: rest, some run => .error (.unencodable ⟨run.first, (rest.takeWhile (· = mark)).length + 1, ahead.length⟩)
        | _, _ => .ok lines

end DependencyAudit.Console
