import DependencyAudit.Console.Emoji
import DependencyAudit.Console.Handler
import DependencyAudit.Console.Styled

namespace DependencyAudit.Markup

/-- What stands in markup after a run of backslashes. -/
inductive Body where
  | character (c : Char)
  | tag (words : Text)
  | ending

/-- A piece of markup: a run of backslashes and what it stands before. -/
structure Piece where
  slashes : Nat
  body : Body

def slashRun (n : Nat) : Text := List.replicate n '\\'

/-- A tag starts with a small letter, a number sign, a slash or an at sign. -/
def opensTag (c : Char) : Bool := ('a' ≤ c && c ≤ 'z') || c = '#' || c = '/' || c = '@'

/-- The rest of a tag up to its closing bracket, and what follows; an opening bracket spoils it. -/
def closeTag : Text → Option (Text × Text)
  | [] => none
  | c :: r =>
    if c = ']' then some ([], r)
    else if c = '[' then none
    else (closeTag r).map fun (words, rest) => (c :: words, rest)

/-- The words of a tag whose opening bracket has been read, and what follows. -/
def tagWords? : Text → Option (Text × Text)
  | [] => none
  | c :: r => if opensTag c then (closeTag r).map fun (words, rest) => (c :: words, rest) else none

theorem closeTag_length {t words rest : Text} (h : closeTag t = some (words, rest)) : rest.length < t.length := by
  induction t generalizing words with
  | nil => simp [closeTag] at h
  | cons c r ih =>
    simp only [closeTag] at h
    split at h
    · simp_all
    split at h
    · simp at h
    obtain ⟨⟨w, s⟩, hr, hs⟩ := Option.map_eq_some_iff.1 h
    simp only [Prod.mk.injEq] at hs
    have := ih (hs.2 ▸ hr)
    simp only [List.length_cons]
    omega

theorem tagWords?_length {t words rest : Text} (h : tagWords? t = some (words, rest)) : rest.length < t.length := by
  cases t with
  | nil => simp [tagWords?] at h
  | cons c r =>
    simp only [tagWords?] at h
    split at h
    · obtain ⟨⟨w, s⟩, hr, hs⟩ := Option.map_eq_some_iff.1 h
      simp only [Prod.mk.injEq] at hs
      have := closeTag_length (hs.2 ▸ hr)
      simp only [List.length_cons]
      omega
    · simp at h

/-- The pieces of markup; the count is of backslashes already read. -/
def pieces (slashes : Nat) (t : Text) : List Piece :=
  match t with
  | [] => [⟨slashes, .ending⟩]
  | c :: r =>
    if c = '\\' then pieces (slashes + 1) r
    else if c = '[' then
      match h : tagWords? r with
      | some (words, rest) =>
        have := tagWords?_length h
        ⟨slashes, .tag words⟩ :: pieces 0 rest
      | none => ⟨slashes, .character c⟩ :: pieces 0 r
    else ⟨slashes, .character c⟩ :: pieces 0 r
termination_by t.length
decreasing_by
  all_goals simp only [List.length_cons]
  all_goals omega

def tagText (words : Text) : Text := '[' :: words ++ [']']

/-- How a piece is written. -/
def Piece.source (p : Piece) : Text :=
  slashRun p.slashes ++
    match p.body with
    | .character c => [c]
    | .tag words => tagText words
    | .ending => []

/-- How a piece is written so that it shows as it was. Only tags, and one backslash at the end, need it. -/
def Piece.escaped (p : Piece) : Text :=
  match p.body with
  | .tag words => slashRun (2 * p.slashes + 1) ++ tagText words
  | .ending => slashRun (if p.slashes = 1 then 2 else p.slashes)
  | .character _ => p.source

/-- Text as markup without tags. -/
def escape (t : Text) : Text := (pieces 0 t).flatMap Piece.escaped

/-- A closing tag without a style to close, a colour whose parts are no numbers, or a handler with bad parameters. -/
inductive Fault where
  | unmatched (words : Text) (position : Nat)
  | nothingOpen (position : Nat)
  | number (f : Colour.NumberFault)
  | handler (f : Handler.Fault)
deriving DecidableEq

def Fault.message : Fault → Text
  | .unmatched words position => "closing tag '".toList ++ tagText words ++ "' at position ".toList ++
      Text.decimal position ++ " doesn't match any open tag".toList
  | .nothingOpen position => "closing tag '[/]' at position ".toList ++ Text.decimal position ++
      " has nothing to close".toList
  | .number f => f.message
  | .handler f => f.message

/-- A tag under way: where it starts, the name of its style, and what was given with it after an equals sign. -/
structure OpenTag where
  start : Nat
  name : Text
  given : Option Text

/-- Checks what is given with a tag that is named for an event. -/
def OpenTag.check (tag : OpenTag) : Except Handler.Fault Unit :=
  match tag.name, tag.given with
  | '@' :: _, some (c :: given) => Handler.check (c :: given)
  | _, _ => .ok ()

/-- What a tag has marked up to a place. -/
def OpenTag.mark (tag : OpenTag) (stop : Nat) : Console.Mark :=
  ⟨tag.start, stop, tag.name ++ (tag.given.map (' ' :: ·)).getD []⟩

/-- A text under way with its marks, the latest first, and the tags that are open, the innermost first. -/
structure Canvas where
  text : Text
  marks : List Console.Mark
  tags : List OpenTag

namespace Canvas

/-- Puts text behind; names of pictures in it are replaced. -/
def put (c : Canvas) (plain : Text) : Canvas :=
  { c with text := c.text ++ (Emoji.replace plain).filter (!Console.isDropped ·) }

def openTag (c : Canvas) (name : Text) (given : Option Text) : Canvas :=
  { c with tags := ⟨c.text.length, name, given⟩ :: c.tags }

/-- Closes an open tag, which need not be the innermost one. -/
def close (c : Canvas) (tag : OpenTag) (others : List OpenTag) : Except Fault Canvas :=
  match tag.check with
  | .error f => .error (.handler f)
  | .ok () => .ok { c with marks := tag.mark c.text.length :: c.marks, tags := others }

/-- The text with all its marks; tags that are open are closed at its end. -/
def finish (c : Canvas) : Console.Styled :=
  let marks := (c.tags.reverse.map (·.mark c.text.length)) ++ c.marks
  ⟨c.text, marks.mergeSort fun m n => decide (m.start ≤ n.start)⟩

end Canvas

/-- The first tag of a name, and the others. -/
def takeTag? (name : Text) : List OpenTag → Option (OpenTag × List OpenTag)
  | [] => none
  | tag :: tags =>
    if tag.name = name then some (tag, tags)
    else (takeTag? name tags).map fun (found, others) => (found, tag :: others)

/-- What follows an equals sign. -/
def given? (words : Text) : Option Text := (Text.cutFirst '=' words).map (·.2)

/-- The canvas after a tag that stands at a position. -/
def applyTag (words : Text) (position : Nat) (c : Canvas) : Except Fault Canvas :=
  match words.takeWhile (· ≠ '=') with
  | '/' :: name =>
    if Text.trim name = [] then
      match c.tags with
      | [] => .error (.nothingOpen position)
      | tag :: outer => c.close tag outer
    else
      match Style.canonical name with
      | .error f => .error (.number f)
      | .ok name =>
        match takeTag? name c.tags with
        | none => .error (.unmatched words position)
        | some (tag, others) => c.close tag others
  | name =>
    match Style.canonical name with
    | .error f => .error (.number f)
    | .ok name => .ok (c.openTag name (given? words))

/-- The text that pieces show, after a canvas and a plain text that is kept in reverse order. Of a run of backslashes
before a tag half are shown, and an odd one makes the tag text; before another opening bracket one is not shown. Names
of pictures are replaced in the text between tags and in a tag that is text, each on its own. -/
def display (position : Nat) (c : Canvas) (plain : Text) : List Piece → Except Fault Console.Styled
  | [] => .ok (c.put plain.reverse).finish
  | p :: ps =>
    let next := position + p.source.length
    match p.body with
    | .ending => display next c (slashRun p.slashes ++ plain) ps
    | .character ch =>
      let kept := if ch = '[' then p.slashes - 1 else p.slashes
      display next c (ch :: (slashRun kept ++ plain)) ps
    | .tag words =>
      let before := (c.put plain.reverse).put (slashRun (p.slashes / 2))
      if p.slashes % 2 = 1 then display next (before.put (tagText words)) [] ps
      else
        match applyTag words (position + p.slashes) before with
        | .error f => .error f
        | .ok after => display next after [] ps

/-- The text that markup shows. -/
def render (t : Text) : Except Fault Console.Styled := display 0 ⟨[], [], []⟩ [] (pieces 0 t)

end DependencyAudit.Markup
