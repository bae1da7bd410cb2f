import DependencyAudit.Console.Screen
import DependencyAudit.Proofs.CodePoint
import DependencyAudit.Proofs.Console.Tagged

namespace DependencyAudit.Console

/-- Without the characters that markup gives a meaning. -/
def isPlain (t : Text) : Bool := t.all fun c => c ≠ '\\' && c ≠ '[' && c ≠ ']'

/-- Words of documented styles. -/
def styleNames : List Text := ["red".toList, "green".toList, "bold cyan".toList]

/-- A cell of a table that nothing can go wrong with: plain markup, or a string that is text. -/
def Part.IsPlain : Part Name → Prop
  | .markup t => isPlain t = true
  | .literal s => s.isText = true

namespace Screen

def Shows (screen : Screen) (item : Item Name) : Prop := ∃ lines, screen.shown item = .ok lines

/-- What commands rely on a screen for. Strings that are text are shown, as pieces in styles, in a frame, or as literal
parts of a line; plain markup is shown, also between the tags of a style. Only two literal parts of one line can go wrong:
they do not unless they make a tag together, and they do if it closes what nothing has opened. -/
structure Lawful (screen : Screen) : Prop where
  strings : ∀ pieces, (∀ p ∈ pieces, Name.isText p.1 = true) → screen.Shows (.strings pieces)
  panel : ∀ title pieces, (∀ t ∈ title, isPlain t = true) → (∀ p ∈ pieces, Name.isText p.1 = true) →
    screen.Shows (.panel title pieces)
  markup : ∀ t, isPlain t = true → screen.Shows (.line [.markup t])
  literal : ∀ before s, isPlain before = true → Name.isText s = true →
    screen.Shows (.line [.markup before, .literal s])
  heading : ∀ style ∈ styleNames, ∀ before t, isPlain before = true → isPlain t = true →
    screen.Shows (.line [.markup (before ++ Markup.tagText style ++ t ++ Markup.tagText ('/' :: style))])
  styled : ∀ style ∈ styleNames, ∀ before s after, isPlain before = true → isPlain after = true →
    Name.isText s = true → screen.Shows (.line [.markup (Markup.tagText style ++ before), .literal s,
      .markup (after ++ Markup.tagText ('/' :: style))])
  pair : ∀ (before first second : Text), isPlain before = true → (∀ sign, ¬ Markup.TagAcross sign first second) →
    screen.Shows (.line [.markup before, .literal first, .markup ": ".toList, .literal second])
  across : ∀ (before first second : Text), isPlain before = true → Markup.TagAcross '/' first second → '\\' ∉ first →
    ∃ f, screen.shown (.line [.markup before, .literal first, .markup ": ".toList, .literal second]) = .error f
  table : ∀ title header rows, isPlain title = true → (∀ t ∈ header, isPlain t = true) →
    (∀ row ∈ rows, ∀ part ∈ row, part.IsPlain) → screen.Shows (.table title header rows)

end Screen

/-- Where every item has a good result, all results together are there and good. -/
theorem exists_mapM {ε α β : Type} {f : α → Except ε β} {P : β → Prop} {as : List α}
    (each : ∀ a ∈ as, ∃ b, f a = .ok b ∧ P b) : ∃ bs, as.mapM f = .ok bs ∧ ∀ b ∈ bs, P b := by
  induction as with
  | nil => exact ⟨[], rfl, fun b hb => absurd hb List.not_mem_nil⟩
  | cons a as ih =>
    obtain ⟨b, hb, good⟩ := each a List.mem_cons_self
    obtain ⟨bs, hbs, rest⟩ := ih fun c hc => each c (List.mem_cons_of_mem a hc)
    refine ⟨b :: bs, ?_, List.forall_mem_cons.2 ⟨good, rest⟩⟩
    rw [List.mapM_cons, hb, hbs]
    rfl

section Plain

variable {t : Text}

theorem plain_of_isPlain (h : isPlain t = true) : Markup.Plain t := by
  simp only [isPlain, List.all_eq_true, Bool.and_eq_true, decide_eq_true_eq] at h
  exact ⟨fun mem => (h _ mem).1.1 rfl, fun mem => (h _ mem).1.2 rfl⟩

theorem isBracket_of_isPlain (h : isPlain t = true) : ∀ c ∈ t, Markup.isBracket c = false := by
  simp only [isPlain, List.all_eq_true, Bool.and_eq_true, decide_eq_true_eq] at h
  intro c hc
  simp [Markup.isBracket, h c hc]

theorem opens_of_mem_styleNames {style : Text} (h : style ∈ styleNames) : Markup.Opens style := by
  simp only [styleNames, List.mem_cons, List.not_mem_nil, or_false] at h
  rcases h with rfl | rfl | rfl
  · exact Style.opens_red
  · exact Style.opens_green
  · exact Style.opens_bold_cyan

end Plain

section Printed

variable {opening body after : Text} (width : Nat)

theorem exists_printed_plain {t : Text} (h : isPlain t = true) : ∃ lines, printedMarkup width t = .ok lines := by
  obtain ⟨shown, rendered⟩ := Markup.render_plain (plain_of_isPlain h)
  exact printedMarkup_of_sound width rendered (Styled.sound_of_marks_eq_nil rfl)

/-- What is put between the tags of a style is shown, however it is spelled, with plain markup around it. -/
theorem exists_printed_styled {style : Text} (opens : Markup.Opens style) (before : isPlain opening = true)
    (behind : isPlain after = true) (t : Text) : ∃ lines, printedMarkup width (Markup.tagText style ++ opening ++
      (Markup.escape t ++ (after ++ Markup.tagText ('/' :: style)))) = .ok lines := by
  have inert : Markup.Inert (Markup.pieces 0 (Markup.escape t ++ after)) := by
    cases after with
    | nil =>
      rw [List.append_nil]
      exact Markup.inert_pieces_escape t
    | cons c after =>
      have first : (c :: after).find? Markup.isBracket ≠ some ']' := by
        rw [List.find?_eq_none.2 fun d hd => by simp [isBracket_of_isPlain behind d hd]]
        simp
      apply Markup.inert_append (Markup.apart_of_first first _) (Markup.inert_pieces_escape t)
      intro k
      have alone := Markup.inert_pieces_behind (plain_of_isPlain behind) (Markup.inert_pieces_plain (t := []) (by decide)) k
      rwa [List.append_nil] at alone
  obtain ⟨lines, printed⟩ := printedMarkup_tagged opens [] (opening ++ (Markup.escape t ++ after)) (by decide)
    (Markup.inert_pieces_append (plain_of_isPlain before) inert) width
  refine ⟨lines, ?_⟩
  rw [← printed]
  simp

theorem exists_printed_pair {first second : Text} (before : isPlain opening = true)
    (apart : ∀ sign, ¬ Markup.TagAcross sign first second) : ∃ lines, printedMarkup width
      (opening ++ (Markup.escape first ++ (": ".toList ++ Markup.escape second))) = .ok lines := by
  have clean : ∀ d ∈ [':', ' '], Markup.isBracket d = false := by simp [Markup.isBracket]
  obtain ⟨shown, rendered⟩ := Markup.render_escape_pair opening [' '] (plain_of_isPlain before) (by decide) (by decide)
    clean apart
  exact printedMarkup_of_sound width rendered (Styled.sound_of_marks_eq_nil rfl)

theorem exists_unprinted_pair {first second : Text} (before : isPlain opening = true)
    (across : Markup.TagAcross '/' first second) (slashless : '\\' ∉ first) : ∃ f, printedMarkup width
      (opening ++ (Markup.escape first ++ (": ".toList ++ Markup.escape second))) = .error f := by
  have clean : ∀ d ∈ [':', ' '], Markup.isBracket d = false := by simp [Markup.isBracket]
  obtain ⟨f, unread⟩ := across.render slashless opening [':', ' '] (plain_of_isPlain before) clean
  exact ⟨f, printedMarkup_of_unread width unread⟩

end Printed

namespace Screen

variable {width : Nat} {item : Item Name}

theorem shown_ofWidth (text : ∀ s ∈ item.all, Name.isText s = true) :
    (ofWidth width).shown item = ((item.map CodePoint.chars).lines width).mapError .markup := by
  have whole : Name.isText item.all.flatten = true := by
    rw [Name.isText_iff]
    intro p hp
    obtain ⟨s, hs, hp⟩ := List.mem_flatten.1 hp
    exact Name.isText_iff.1 (text s hs) p hp
  exact if_pos whole

/-- Where all strings are text, what can be laid out is shown. -/
theorem shows_ofWidth (text : ∀ s ∈ item.all, Name.isText s = true)
    (laidOut : ∃ lines, (item.map CodePoint.chars).lines width = .ok lines) : (ofWidth width).Shows item := by
  obtain ⟨lines, laidOut⟩ := laidOut
  refine ⟨lines, ?_⟩
  rw [shown_ofWidth text, laidOut]
  rfl

theorem rendered_of_isPlain {part : Part Name} (h : part.IsPlain) :
    ∃ s, (part.map CodePoint.chars).rendered = .ok s ∧ s.Sound := by
  cases part with
  | markup t =>
    obtain ⟨shown, rendered⟩ := Markup.render_plain (plain_of_isPlain h)
    exact ⟨_, rendered, Styled.sound_of_marks_eq_nil rfl⟩
  | literal s => exact ⟨_, rfl, Styled.sound_of_marks_eq_nil rfl⟩

/-- A line is shown as its parts in a row are, each literal one escaped on its own. -/
theorem lines_line (parts : List (Part Name)) :
    ((Item.line parts).map CodePoint.chars).lines width =
      printedMarkup width (parts.flatMap fun part => (part.map CodePoint.chars).source) := by
  rw [Item.map, Item.lines, List.flatMap_map]

theorem isText_pair (before between first second : Text) :
    ∀ s ∈ (Item.line [.markup before, .literal (CodePoint.ofText first), .markup between,
      .literal (CodePoint.ofText second)]).all, Name.isText s = true :=
  List.forall_mem_cons.2 ⟨Name.isText_ofText first, List.forall_mem_singleton.2 (Name.isText_ofText second)⟩

theorem lawful_ofWidth (width : Nat) : (ofWidth width).Lawful := by
  constructor
  case strings =>
    intro pieces text
    exact shows_ofWidth (List.forall_mem_map.2 text) ⟨_, rfl⟩
  case panel =>
    intro title pieces _ text
    exact shows_ofWidth (List.forall_mem_map.2 text) ⟨_, rfl⟩
  case markup =>
    intro t plain
    apply shows_ofWidth (fun s hs => absurd hs List.not_mem_nil)
    rw [lines_line]
    simpa [Part.map, Part.source] using exists_printed_plain width plain
  case literal =>
    intro before s plain text
    apply shows_ofWidth (by simpa [Item.all, Part.string?] using text)
    rw [lines_line]
    simpa [Part.map, Part.source] using printedMarkup_escape (plain_of_isPlain plain) (CodePoint.chars s) width
  case heading =>
    intro style known before t plain plain'
    apply shows_ofWidth (fun s hs => absurd hs List.not_mem_nil)
    rw [lines_line]
    simpa [Part.map, Part.source] using printedMarkup_tagged (opens_of_mem_styleNames known) before t
      (plain_of_isPlain plain) (Markup.inert_pieces_plain (plain_of_isPlain plain')) width
  case styled =>
    intro style known before s after plain plain' text
    apply shows_ofWidth (by simpa [Item.all, Part.string?] using text)
    rw [lines_line]
    simpa [Part.map, Part.source] using exists_printed_styled width (opens_of_mem_styleNames known) plain plain'
      (CodePoint.chars s)
  case pair =>
    intro before first second plain apart
    apply shows_ofWidth
    · exact isText_pair before ": ".toList first second
    · rw [lines_line]
      simpa [Part.map, Part.source] using exists_printed_pair width plain apart
  case across =>
    intro before first second plain across slashless
    obtain ⟨f, unprinted⟩ := exists_unprinted_pair width plain across slashless
    refine ⟨.markup f, ?_⟩
    rw [shown_ofWidth (isText_pair before ": ".toList first second), lines_line]
    simp only [List.flatMap_cons, List.flatMap_nil, List.append_nil, Part.map, Part.source, CodePoint.chars_ofText]
    rw [unprinted]
    rfl
  case table =>
    intro title header rows _ _ plain
    apply shows_ofWidth
    · intro s hs
      obtain ⟨part, hpart, shown⟩ := List.mem_filterMap.1 hs
      obtain ⟨row, hrow, hpart⟩ := List.mem_flatten.1 hpart
      have own := plain row hrow part hpart
      cases part with
      | markup t => cases shown
      | literal n =>
        obtain rfl := Option.some.inj shown
        exact own
    · obtain ⟨cells, rendered, sound⟩ := exists_mapM (P := fun row => ∀ cell ∈ row, cell.Sound)
        (f := fun row : List (Part Name) => row.mapM fun part => (part.map CodePoint.chars).rendered)
        fun row hrow => exists_mapM fun part hpart => rendered_of_isPlain (plain row hrow part hpart)
      obtain ⟨lines, laidOut⟩ := Table.lines_of_sound (t := ⟨title, header.map .ofText, cells⟩) width sound
      refine ⟨lines, ?_⟩
      simp only [Item.map, Item.lines, List.mapM_map, Function.comp_def]
      rw [rendered]
      exact congrArg (Except.mapError Markup.Fault.number) laidOut

end Screen

end DependencyAudit.Console
