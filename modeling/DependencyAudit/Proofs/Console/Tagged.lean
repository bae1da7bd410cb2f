import DependencyAudit.Proofs.Console.Joining
import DependencyAudit.Proofs.Console.Styles
import DependencyAudit.Proofs.Text
import Mathlib.Data.List.TakeWhile

namespace DependencyAudit

namespace Markup

variable {name : Text}

theorem IsTag.closing (h : IsTag name) : IsTag ('/' :: name) := by
  obtain ⟨c, w, rfl, opens, clean⟩ := h
  refine ⟨'/', c :: w, rfl, by decide, ?_⟩
  exact List.forall_mem_cons.2 ⟨isBracket_of_opensTag opens, clean⟩

/-- A tag that opens a style, which can be read, and has nothing given with it. -/
structure Opens (name : Text) : Prop where
  tag : IsTag name
  alone : '=' ∉ name
  head : name.head? ≠ some '/'
  shown : Text.trim name ≠ []
  canonical : Style.canonical name = .ok name
  readable : Style.fault? name = none

theorem OpenTag.check_alone (start : Nat) (name : Text) : OpenTag.check ⟨start, name, none⟩ = .ok () := by
  unfold OpenTag.check
  split
  · rename_i given
    cases given
  · rfl

theorem OpenTag.mark_alone (start stop : Nat) (name : Text) :
    OpenTag.mark ⟨start, name, none⟩ stop = ⟨start, stop, name⟩ := by
  rw [mark, Option.map_none, Option.getD_none, List.append_nil]

namespace Opens

variable (h : Opens name)

include h

theorem takeWhile : name.takeWhile (· ≠ '=') = name := by
  rw [List.takeWhile_eq_self_iff]
  intro c hc
  have other : c ≠ '=' := fun same => h.alone (same ▸ hc)
  simp [other]

theorem applyTag (position : Nat) (c : Canvas) : Markup.applyTag name position c = .ok (c.openTag name none) := by
  have given : given? name = none := by
    rw [given?, Option.map_eq_none_iff]
    exact Text.cutFirst_of_not_mem h.alone
  have opening : ∀ rest, name ≠ '/' :: rest := by
    rintro rest rfl
    exact h.head rfl
  unfold Markup.applyTag
  rw [h.takeWhile]
  split
  · rename_i rest
    exact absurd rfl (opening rest)
  · rw [h.canonical, given]

theorem applyTag_closing (position start : Nat) {c : Canvas} (inside : c.tags = [⟨start, name, none⟩]) :
    Markup.applyTag ('/' :: name) position c =
      .ok ⟨c.text, ⟨start, c.text.length, name⟩ :: c.marks, []⟩ := by
  have whole : ('/' :: name).takeWhile (· ≠ '=') = '/' :: name := by
    rw [List.takeWhile_cons_of_pos (by decide), h.takeWhile]
  unfold Markup.applyTag
  rw [whole, inside]
  simp only [if_neg h.shown, h.canonical, takeTag?, if_true, Canvas.close, OpenTag.check_alone, OpenTag.mark_alone]

/-- Whether or not a backslash keeps the closing tag from taking effect, the end closes what is open. -/
theorem display_closing (position start slashes : Nat) {c : Canvas} (plain : Text) (unmarked : c.marks = [])
    (inside : c.tags = [⟨start, name, none⟩]) :
    ∃ t, display position c plain [⟨slashes, .tag ('/' :: name)⟩, ⟨0, .ending⟩] = .ok t ∧
      t.marks.map (·.style) = [name] := by
  rcases Nat.mod_two_eq_zero_or_one slashes with even | odd
  · have kept : ((c.put plain.reverse).put (slashRun (slashes / 2))).tags = [⟨start, name, none⟩] := inside
    rw [display_tag _ _ _ _ _ even, h.applyTag_closing _ start kept]
    refine ⟨_, rfl, ?_⟩
    simp [Canvas.finish, Canvas.put, unmarked]
  · rw [display_tag_text _ _ _ _ _ odd]
    refine ⟨_, rfl, ?_⟩
    simp [Canvas.finish, Canvas.put, inside, unmarked, OpenTag.mark_alone]

end Opens

/-- A text between tags shows in the style of the tags alone, if no tag in it takes effect. -/
theorem render_tagged (opening body : Text) (outside : Plain opening) (inside : Inert (pieces 0 body)) (h : Opens name) :
    ∃ t, render (opening ++ (tagText name ++ (body ++ (tagText ('/' :: name) ++ [])))) = .ok t ∧
      t.marks.map (·.style) = [name] := by
  have first : (tagText ('/' :: name) ++ []).find? isBracket ≠ some ']' := find?_opening _
  obtain ⟨ps, k, alone, joined⟩ := pieces_append (apart_of_first first body) 0
  rw [alone] at inside
  rw [pieces_tag h.tag.closing, pieces_nil] at joined
  rw [render, pieces_plain outside, pieces_tag h.tag, joined]
  obtain ⟨position, c, plain, before, marks, tags⟩ := display_inert_append (inert_characters opening) 0 ⟨[], [], []⟩ []
    (⟨0, .tag name⟩ :: (ps ++ [⟨k, .tag ('/' :: name)⟩, ⟨0, .ending⟩]))
  rw [before, display_tag _ _ _ _ _ rfl, h.applyTag, Except.bind]
  obtain ⟨_, c', plain', between, marks', tags'⟩ := display_inert_append inside.of_append
    (position + (Piece.source ⟨0, .tag name⟩).length) (((c.put plain.reverse).put (slashRun 0)).openTag name none) []
    [⟨k, .tag ('/' :: name)⟩, ⟨0, .ending⟩]
  have unmarked : c'.marks = [] := marks'.trans marks
  have inside' : c'.tags = [⟨((c.put plain.reverse).put (slashRun 0)).text.length, name, none⟩] :=
    tags'.trans (congrArg (_ :: ·) tags)
  obtain ⟨t, closed, styles⟩ := h.display_closing _ _ k plain' unmarked inside'
  exact ⟨t, between.trans closed, styles⟩

end Markup

/-- What is put between the tags of a style is printed on a screen of any width, if no tag in it takes effect. -/
theorem Console.printedMarkup_tagged {name : Text} (h : Markup.Opens name) (opening body : Text)
    (outside : Markup.Plain opening) (inside : Markup.Inert (Markup.pieces 0 body)) (width : Nat) :
    ∃ lines, printedMarkup width
      (opening ++ (Markup.tagText name ++ (body ++ (Markup.tagText ('/' :: name) ++ [])))) = .ok lines := by
  obtain ⟨t, rendered, styles⟩ := Markup.render_tagged opening body outside inside h
  refine printedMarkup_of_sound width rendered ?_
  intro m hm
  have style : m.style ∈ t.marks.map (·.style) := List.mem_map_of_mem hm
  rw [styles] at style
  rw [List.mem_singleton.1 style]
  exact h.readable

namespace Style

variable {w : Text}

/-- A word that does not spell out the parts of a colour is a colour or is not, but no fault. -/
theorem colourWord_of_parts (h : Colour.parts? w = none) : colourWord w = .ok w ∨ colourWord w = .error .unknown := by
  have known : ∃ b, Colour.isColour w = .ok b := by
    unfold Colour.isColour
    rw [h]
    exact ⟨_, rfl⟩
  obtain ⟨b, hb⟩ := known
  rw [colourWord, hb]
  cases b with
  | true => exact .inl rfl
  | false => exact .inr rfl

/-- The words of a style that have a meaning of their own. -/
def keywords : List Text := ["on".toList, "not".toList, "link".toList]

theorem read_attribute (s : Style) {a : Attribute} (ws : List Text) (other : Text.lower w ∉ keywords)
    (h : Attribute.ofWord? (Text.lower w) = some a) : read s (w :: ws) = read (s.set a true) ws := by
  simp only [keywords, List.mem_cons, List.not_mem_nil, or_false, not_or] at other
  obtain ⟨on, no, link⟩ := other
  rw [read.eq_def]
  simp only [if_neg on, if_neg no, if_neg link, h]

theorem read_colour (s : Style) (ws : List Text) (other : Text.lower w ∉ keywords)
    (h : Attribute.ofWord? (Text.lower w) = none) :
    read s (w :: ws) = (colourWord (Text.lower w)).bind fun c => read { s with colour := some c } ws := by
  simp only [keywords, List.mem_cons, List.not_mem_nil, or_false, not_or] at other
  obtain ⟨on, no, link⟩ := other
  rw [read.eq_def]
  simp only [if_neg on, if_neg no, if_neg link, h]
  cases colourWord (Text.lower w) <;> rfl

/-- Whether or not the second word is among the colours, the style is no fault and keeps its name. -/
theorem read_bold_cyan :
    read plain (Text.words "bold cyan".toList) = .ok ⟨[(.bold, true)], some "cyan".toList, none, none⟩ ∨
      read plain (Text.words "bold cyan".toList) = .error .unknown := by
  have words : Text.words "bold cyan".toList = ["bold".toList, "cyan".toList] := by decide +kernel
  have bold : Attribute.ofWord? (Text.lower "bold".toList) = some .bold := by decide +kernel
  have cyan : Attribute.ofWord? (Text.lower "cyan".toList) = none := by decide +kernel
  have lower : Text.lower "cyan".toList = "cyan".toList := by decide +kernel
  have parts : Colour.parts? "cyan".toList = none := by decide +kernel
  rw [words, read_attribute plain _ (by decide +kernel) bold, read_colour _ _ (by decide +kernel) cyan, lower]
  rcases colourWord_of_parts parts with known | unknown
  · left
    rw [known, Except.bind, read]
    rfl
  · right
    rw [unknown]
    rfl

section Known

variable {t : Text} {s : Style} (h : read plain (Text.words t) = .ok s ∨ read plain (Text.words t) = .error .unknown)

include h

theorem fault?_of_read : fault? t = none := by
  rw [fault?]
  rcases h with known | unknown
  · rw [known]
  · rw [unknown]

/-- Known or not, words keep their name if they are written as the style would be. -/
theorem canonical_of_read (text : s.text = t) (lower : Text.lower (Text.trim t) = t) (other : Text.trim t ≠ "none".toList) :
    canonical t = .ok t := by
  rw [canonical, if_neg other]
  rcases h with known | unknown
  · rw [known]
    exact congrArg Except.ok text
  · rw [unknown]
    exact congrArg Except.ok lower

end Known

theorem opens_bold_cyan : Markup.Opens "bold cyan".toList where
  tag := by
    have clean : "old cyan".toList.all (!Markup.isBracket ·) = true := by decide
    exact ⟨'b', "old cyan".toList, rfl, by decide, by simpa using clean⟩
  alone := by decide
  head := by decide
  shown := by decide
  canonical := canonical_of_read read_bold_cyan (by decide +kernel) (by decide +kernel) (by decide +kernel)
  readable := fault?_of_read read_bold_cyan

/-- Whether or not a word is among the colours, alone it opens a style. -/
theorem opens_colour (tag : Markup.IsTag w) (alone : '=' ∉ w) (head : w.head? ≠ some '/') (words : Text.words w = [w])
    (trim : Text.trim w = w) (lower : Text.lower w = w) (other : w ∉ "none".toList :: keywords)
    (no_attribute : Attribute.ofWord? w = none) (parts : Colour.parts? w = none) : Markup.Opens w := by
  obtain ⟨named, no_keyword⟩ := not_or.1 (List.mem_cons.not.1 other)
  have read : read plain (Text.words w) = .ok ⟨[], some w, none, none⟩ ∨
      read plain (Text.words w) = .error .unknown := by
    rw [words, read_colour plain [] (lower.symm ▸ no_keyword) (lower.symm ▸ no_attribute), lower]
    rcases colourWord_of_parts parts with known | unknown
    · left
      rw [known, Except.bind, Style.read]
      rfl
    · right
      rw [unknown]
      rfl
  have text : (⟨[], some w, none, none⟩ : Style).text = w := by
    have no_attributes : Attribute.all.filterMap (attributeText ⟨[], some w, none, none⟩) = [] :=
      List.filterMap_eq_nil_iff.2 fun _ _ => rfl
    rw [Style.text, no_attributes]
    exact List.append_nil w
  have shown : Text.trim w ≠ [] := by
    obtain ⟨c, r, rfl, -⟩ := tag
    rw [trim]
    exact List.cons_ne_nil c r
  exact ⟨tag, alone, head, shown, canonical_of_read read text (trim.symm ▸ lower) (trim.symm ▸ named), fault?_of_read read⟩

theorem opens_red : Markup.Opens "red".toList :=
  opens_colour ⟨'r', "ed".toList, rfl, by decide, by simp [Markup.isBracket]⟩ (by decide) (by decide) (by decide +kernel)
    (by decide) (by decide +kernel) (by decide) (by decide +kernel) (by decide +kernel)

theorem opens_green : Markup.Opens "green".toList :=
  opens_colour ⟨'g', "reen".toList, rfl, by decide, by simp [Markup.isBracket]⟩ (by decide) (by decide)
    (by decide +kernel) (by decide) (by decide +kernel) (by decide) (by decide +kernel) (by decide +kernel)

end Style

end DependencyAudit
