import DependencyAudit.Console.Markup
import Mathlib.Data.List.Basic

namespace DependencyAudit.Markup

def isBracket (c : Char) : Bool := c = '[' || c = ']'

/-- The words of a tag: a sign that opens one, and no brackets behind it. -/
def IsTag (words : Text) : Prop := ∃ c w, words = c :: w ∧ opensTag c = true ∧ ∀ d ∈ w, isBracket d = false

theorem isBracket_of_opensTag {c : Char} (h : opensTag c = true) : isBracket c = false := by
  rw [isBracket, Bool.or_eq_false_iff, decide_eq_false_iff_not, decide_eq_false_iff_not]
  constructor
  · rintro rfl
    revert h
    decide
  · rintro rfl
    revert h
    decide

theorem closeTag_eq_some {t words rest : Text} :
    closeTag t = some (words, rest) ↔ t = words ++ ']' :: rest ∧ ∀ c ∈ words, isBracket c = false := by
  induction t generalizing words with
  | nil => simp [closeTag]
  | cons c r ih =>
    rw [closeTag]
    by_cases close : c = ']'
    · subst close
      cases words with
      | nil => simp
      | cons d w =>
        simp only [if_true, Option.some.injEq, Prod.mk.injEq, List.cons_append, List.cons.injEq]
        constructor
        · rintro ⟨empty, -⟩
          cases empty
        · rintro ⟨⟨rfl, -⟩, plain⟩
          cases plain ']' List.mem_cons_self
    · by_cases opening : c = '['
      · subst opening
        cases words with
        | nil => simp
        | cons d w =>
          simp only [close, if_false, if_true, reduceCtorEq, List.cons_append, List.cons.injEq, false_iff, not_and]
          rintro ⟨rfl, -⟩ plain
          cases plain '[' List.mem_cons_self
      · rw [if_neg close, if_neg opening]
        cases words with
        | nil => simp [close]
        | cons d w =>
          have plain : isBracket c = false := by simp [isBracket, close, opening]
          constructor
          · intro h
            obtain ⟨⟨w', rest'⟩, closed, same⟩ := Option.map_eq_some_iff.1 h
            obtain ⟨same_words, rfl⟩ := Prod.mk.inj same
            obtain ⟨rfl, rfl⟩ := List.cons.inj same_words
            obtain ⟨rfl, clean⟩ := ih.1 closed
            exact ⟨rfl, List.forall_mem_cons.2 ⟨plain, clean⟩⟩
          · rintro ⟨same, clean⟩
            obtain ⟨rfl, rfl⟩ := List.cons.inj same
            have closed : closeTag (w ++ ']' :: rest) = some (w, rest) :=
              ih.2 ⟨rfl, fun d hd => clean d (List.mem_cons_of_mem _ hd)⟩
            exact Option.map_eq_some_iff.2 ⟨_, closed, rfl⟩

theorem tagWords?_eq_some {t words rest : Text} :
    tagWords? t = some (words, rest) ↔ IsTag words ∧ t = words ++ ']' :: rest := by
  cases t with
  | nil => simp [tagWords?]
  | cons c r =>
    rw [tagWords?]
    constructor
    · intro h
      split at h
      · rename_i opens
        obtain ⟨⟨w, s⟩, closed, same⟩ := Option.map_eq_some_iff.1 h
        obtain ⟨rfl, rfl⟩ := Prod.mk.inj same
        obtain ⟨rfl, clean⟩ := closeTag_eq_some.1 closed
        exact ⟨⟨c, w, rfl, opens, clean⟩, rfl⟩
      · cases h
    · rintro ⟨⟨d, w, rfl, opens, clean⟩, same⟩
      obtain ⟨rfl, rfl⟩ := List.cons.inj same
      have closed : closeTag (w ++ ']' :: rest) = some (w, rest) := closeTag_eq_some.2 ⟨rfl, clean⟩
      rw [if_pos opens]
      exact Option.map_eq_some_iff.2 ⟨_, closed, rfl⟩

/-- Whether a tag can be read depends on how the text starts and on the first bracket in it only. -/
theorem tagWords?_eq_none {t : Text} :
    tagWords? t = none ↔ (∀ c ∈ t.head?, opensTag c = false) ∨ t.find? isBracket ≠ some ']' := by
  constructor
  · intro h
    by_contra some_tag
    simp only [not_or, not_forall, Bool.not_eq_false, not_not] at some_tag
    obtain ⟨⟨c, head, opens⟩, first⟩ := some_tag
    obtain ⟨-, before, rest, rfl, clean⟩ := List.find?_eq_some_iff_append.1 first
    cases before with
    | nil =>
      obtain rfl : ']' = c := Option.some.inj head
      revert opens
      decide
    | cons d w =>
      obtain rfl : d = c := Option.some.inj head
      have found : tagWords? (d :: w ++ ']' :: rest) = some (d :: w, rest) := by
        refine tagWords?_eq_some.2 ⟨⟨d, w, rfl, opens, ?_⟩, rfl⟩
        intro e he
        simpa using clean e (List.mem_cons_of_mem d he)
      rw [h] at found
      cases found
  · intro none_left
    rw [Option.eq_none_iff_forall_ne_some]
    rintro ⟨words, rest⟩ h
    obtain ⟨⟨c, w, rfl, opens, clean⟩, rfl⟩ := tagWords?_eq_some.1 h
    rcases none_left with head | first
    · rw [head c rfl] at opens
      cases opens
    · apply first
      rw [List.find?_eq_some_iff_append]
      refine ⟨rfl, c :: w, rest, rfl, ?_⟩
      intro d hd
      rcases List.mem_cons.1 hd with rfl | hd
      · simp [isBracket_of_opensTag opens]
      · simp [clean d hd]

/-- A text without any character that can stand before a tag or open one. -/
def Plain (t : Text) : Prop := '\\' ∉ t ∧ '[' ∉ t

instance (t : Text) : Decidable (Plain t) := inferInstanceAs (Decidable (_ ∧ _))

theorem plain_cons {c : Char} {t : Text} : Plain (c :: t) ↔ (c ≠ '\\' ∧ c ≠ '[') ∧ Plain t := by
  rw [Plain, Plain, List.mem_cons, List.mem_cons, not_or, not_or, and_and_and_comm]
  exact and_congr_left' (and_congr ne_comm ne_comm)

section Pieces

variable {n : Nat} {c : Char} {r words rest : Text}

theorem pieces_nil : pieces n [] = [⟨n, .ending⟩] := by rw [pieces]

theorem pieces_backslash : pieces n ('\\' :: r) = pieces (n + 1) r := by
  rw [pieces, if_pos rfl]

theorem pieces_slashRun (k : Nat) : pieces n (slashRun k ++ r) = pieces (n + k) r := by
  induction k generalizing n with
  | zero => rfl
  | succ k ih =>
    rw [slashRun, List.replicate_succ, List.cons_append, pieces_backslash, ← slashRun, ih]
    congr 1
    omega

theorem pieces_tag (h : IsTag words) :
    pieces n (tagText words ++ rest) = ⟨n, .tag words⟩ :: pieces 0 rest := by
  have read : tagWords? (words ++ ']' :: rest) = some (words, rest) := tagWords?_eq_some.2 ⟨h, rfl⟩
  have written : tagText words ++ rest = '[' :: (words ++ ']' :: rest) := by simp [tagText]
  rw [written, pieces, if_neg (by decide), if_pos rfl]
  split
  · rename_i w s found
    obtain ⟨rfl, rfl⟩ := Prod.mk.inj (Option.some.inj (read.symm.trans found))
    rfl
  · rename_i none_found
    rw [read] at none_found
    cases none_found

theorem pieces_character (slash : c ≠ '\\') (h : c = '[' → tagWords? r = none) :
    pieces n (c :: r) = ⟨n, .character c⟩ :: pieces 0 r := by
  rw [pieces, if_neg slash]
  split
  · rename_i opening
    split
    · rename_i found
      rw [h opening] at found
      cases found
    · rfl
  · rfl

/-- Characters that cannot open a tag are pieces of their own. -/
theorem pieces_plain {opening : Text} (plain : Plain opening) (t : Text) :
    pieces 0 (opening ++ t) = opening.map (⟨0, .character ·⟩) ++ pieces 0 t := by
  induction opening with
  | nil => rfl
  | cons c opening ih =>
    obtain ⟨⟨slash, bracket⟩, others⟩ := plain_cons.1 plain
    have rest := ih others
    rw [List.cons_append, pieces_character slash fun h => absurd h bracket, rest]
    rfl

end Pieces

section Escape

/-- A piece as it comes back from its escaped form: text, if it was a tag. -/
def Piece.inert (p : Piece) : Piece :=
  match p.body with
  | .tag words => ⟨2 * p.slashes + 1, .tag words⟩
  | .ending => ⟨if p.slashes = 1 then 2 else p.slashes, .ending⟩
  | .character _ => p

theorem filter_slashRun (k : Nat) (t : Text) : (slashRun k ++ t).filter isBracket = t.filter isBracket := by
  rw [List.filter_append, List.filter_eq_nil_iff.2, List.nil_append]
  intro c hc
  rw [List.eq_of_mem_replicate hc]
  decide

theorem filter_escaped (p : Piece) : p.escaped.filter isBracket = p.source.filter isBracket := by
  obtain ⟨slashes, body⟩ := p
  cases body with
  | character c => rfl
  | tag words => rw [Piece.escaped, Piece.source, filter_slashRun, filter_slashRun]
  | ending =>
    have runs := fun k => filter_slashRun k []
    simp only [List.append_nil] at runs
    simp only [Piece.escaped, Piece.source, List.append_nil, runs]

theorem flatMap_source (n : Nat) (t : Text) : (pieces n t).flatMap Piece.source = slashRun n ++ t := by
  fun_induction pieces n t with
  | case1 n => simp [Piece.source]
  | case2 n r ih =>
    rw [ih, slashRun, slashRun, List.replicate_succ', List.append_assoc]
    rfl
  | case3 n r words rest found _ _ ih =>
    obtain ⟨-, rfl⟩ := tagWords?_eq_some.1 found
    rw [List.flatMap_cons, ih]
    simp [Piece.source, tagText, slashRun]
  | case4 n r _ _ ih => simp [ih, Piece.source, slashRun]
  | case5 n c r _ _ ih => simp [ih, Piece.source, slashRun]

/-- Escaping leaves the brackets as they are. -/
theorem filter_escape (t : Text) : (escape t).filter isBracket = t.filter isBracket := by
  have source := flatMap_source 0 t
  rw [slashRun, List.replicate_zero, List.nil_append] at source
  rw [escape, List.filter_flatMap]
  simp only [filter_escaped]
  rw [← List.filter_flatMap, source]

theorem find?_escape (t : Text) : (escape t).find? isBracket = t.find? isBracket := by
  rw [← List.head?_filter, ← List.head?_filter, filter_escape]

theorem head?_escaped_of_pos {n : Nat} (h : 0 < n) (t : Text) :
    ((pieces n t).flatMap Piece.escaped).head? = some '\\' := by
  have run (k : Nat) (hk : 0 < k) (u : Text) : (slashRun k ++ u).head? = some '\\' := by
    obtain ⟨j, rfl⟩ := Nat.exists_eq_add_of_lt hk
    rw [Nat.zero_add, slashRun, List.replicate_succ]
    rfl
  fun_induction pieces n t with
  | case1 n =>
    have last := run (if n = 1 then 2 else n) (by split <;> omega) []
    rw [List.append_nil] at last
    rw [List.flatMap_singleton]
    exact last
  | case2 n r ih => exact ih (by omega)
  | case3 n r words rest found _ _ ih =>
    rw [List.flatMap_cons, Piece.escaped, List.append_assoc]
    exact run _ (by omega) _
  | case4 n r _ _ ih =>
    rw [List.flatMap_cons, Piece.escaped, Piece.source, List.append_assoc]
    exact run _ h _
  | case5 n c r _ _ ih =>
    rw [List.flatMap_cons, Piece.escaped, Piece.source, List.append_assoc]
    exact run _ h _

/-- Escaped text starts as the text does or with a backslash. -/
theorem head?_escape (t : Text) : (escape t).head? = t.head? ∨ (escape t).head? = some '\\' := by
  cases t with
  | nil => exact .inl (by simp [escape, pieces_nil, Piece.escaped, slashRun])
  | cons c r =>
    by_cases slash : c = '\\'
    · rw [escape, slash, pieces_backslash]
      exact .inr (head?_escaped_of_pos (by decide) r)
    · cases found : tagWords? r with
      | none =>
        rw [escape, pieces_character slash fun _ => found]
        exact .inl rfl
      | some tag =>
        obtain ⟨words, rest⟩ := tag
        by_cases opening : c = '['
        · obtain ⟨isTag, rfl⟩ := tagWords?_eq_some.1 found
          have written : c :: (words ++ ']' :: rest) = tagText words ++ rest := by simp [tagText, opening]
          rw [escape, written, pieces_tag isTag]
          exact .inr rfl
        · rw [escape, pieces_character slash fun h => absurd h opening]
          exact .inl rfl

/-- Where no tag can be read, none can behind the escape. -/
theorem tagWords?_escape {t : Text} (h : tagWords? t = none) : tagWords? (escape t) = none := by
  rw [tagWords?_eq_none] at h ⊢
  rcases h with head | first
  · refine .inl ?_
    rcases head?_escape t with same | backslash
    · rwa [same]
    · rw [backslash]
      intro c hc
      rw [← Option.some.inj hc]
      decide
  · refine .inr ?_
    rwa [find?_escape]

theorem pieces_escaped (n : Nat) (t : Text) :
    pieces 0 ((pieces n t).flatMap Piece.escaped) = (pieces n t).map Piece.inert := by
  fun_induction pieces n t with
  | case1 n =>
    have run := pieces_slashRun (n := 0) (r := []) (if n = 1 then 2 else n)
    rw [List.append_nil, Nat.zero_add, pieces_nil] at run
    rw [List.flatMap_singleton]
    exact run
  | case2 n r ih => exact ih
  | case3 n r words rest found _ _ ih =>
    obtain ⟨isTag, -⟩ := tagWords?_eq_some.1 found
    rw [List.flatMap_cons, Piece.escaped, List.append_assoc, pieces_slashRun, pieces_tag isTag, ih, Nat.zero_add,
      List.map_cons, Piece.inert]
  | case4 n r none_left _ ih =>
    have later : tagWords? ((pieces 0 r).flatMap Piece.escaped) = none := tagWords?_escape none_left
    rw [List.flatMap_cons, Piece.escaped, Piece.source, List.append_assoc, pieces_slashRun, List.singleton_append,
      pieces_character (by decide) fun _ => later, ih, Nat.zero_add, List.map_cons, Piece.inert]
  | case5 n c r slash opening ih =>
    rw [List.flatMap_cons, Piece.escaped, Piece.source, List.append_assoc, pieces_slashRun, List.singleton_append,
      pieces_character slash fun h => absurd h opening, ih, Nat.zero_add, List.map_cons, Piece.inert]

end Escape

/-- Pieces of which no tag takes effect: an odd run of backslashes stands before each. -/
def Inert (ps : List Piece) : Prop := ∀ p ∈ ps, ∀ words, p.body = .tag words → p.slashes % 2 = 1

theorem inert_pieces_escape (t : Text) : Inert (pieces 0 (escape t)) := by
  rw [escape, pieces_escaped]
  intro p hp words body
  obtain ⟨⟨slashes, piece⟩, -, rfl⟩ := List.mem_map.1 hp
  cases piece with
  | character c => cases body
  | ending => cases body
  | tag words =>
    simp only [Piece.inert]
    omega

theorem Inert.append {ps qs : List Piece} (h : Inert ps) (h' : Inert qs) : Inert (ps ++ qs) := by
  intro p hp
  rcases List.mem_append.1 hp with hp | hp
  · exact h p hp
  · exact h' p hp

theorem Inert.of_append {ps qs : List Piece} (h : Inert (ps ++ qs)) : Inert ps :=
  fun p hp => h p (List.mem_append_left qs hp)

theorem inert_characters (t : Text) : Inert (t.map (⟨0, .character ·⟩)) := by
  intro p hp words body
  obtain ⟨c, -, rfl⟩ := List.mem_map.1 hp
  cases body

theorem inert_pieces_append {opening t : Text} (plain : Plain opening)
    (h : Inert (pieces 0 t)) : Inert (pieces 0 (opening ++ t)) := by
  rw [pieces_plain plain]
  exact (inert_characters opening).append h

theorem inert_pieces_plain {t : Text} (plain : Plain t) : Inert (pieces 0 t) := by
  have nothing : Inert (pieces 0 []) := by
    rw [pieces_nil]
    intro p hp words body
    obtain rfl := List.mem_singleton.1 hp
    cases body
  have inert := inert_pieces_append plain nothing
  rwa [List.append_nil] at inert

section Tag

variable {slashes : Nat} (words : Text) (position : Nat) (c : Canvas) (plain : Text) (ps : List Piece)

/-- A tag behind an even run of backslashes takes effect. -/
theorem display_tag (even : slashes % 2 = 0) :
    display position c plain (⟨slashes, .tag words⟩ :: ps) =
      (applyTag words (position + slashes) ((c.put plain.reverse).put (slashRun (slashes / 2)))).bind fun after =>
        display (position + (Piece.source ⟨slashes, .tag words⟩).length) after [] ps := by
  have effective : (slashes % 2 = 1) = False := by simp [even]
  rw [display]
  simp only [effective, if_false]
  cases applyTag words (position + slashes) ((c.put plain.reverse).put (slashRun (slashes / 2))) <;> rfl

theorem display_tag_text (odd : slashes % 2 = 1) :
    display position c plain (⟨slashes, .tag words⟩ :: ps) =
      display (position + (Piece.source ⟨slashes, .tag words⟩).length)
        (((c.put plain.reverse).put (slashRun (slashes / 2))).put (tagText words)) [] ps := by
  rw [display]
  simp only [odd, if_true]

end Tag

/-- Pieces of which no tag takes effect are text only. -/
theorem display_inert_append {ps : List Piece} (h : Inert ps) (position : Nat) (c : Canvas) (plain : Text)
    (qs : List Piece) : ∃ next c' plain', display position c plain (ps ++ qs) = display next c' plain' qs ∧
      c'.marks = c.marks ∧ c'.tags = c.tags := by
  induction ps generalizing position c plain with
  | nil => exact ⟨position, c, plain, rfl, rfl, rfl⟩
  | cons p ps ih =>
    have later := ih fun q hq => h q (List.mem_cons_of_mem p hq)
    obtain ⟨slashes, body⟩ := p
    cases body with
    | character ch => exact later _ _ _
    | ending => exact later _ _ _
    | tag words =>
      rw [List.cons_append, display_tag_text words _ _ _ _ (h _ List.mem_cons_self words rfl)]
      exact later _ _ _

/-- Without tags a text is shown without styles. -/
theorem display_inert {ps : List Piece} (h : Inert ps) (position : Nat) (text plain : Text) :
    ∃ shown, display position ⟨text, [], []⟩ plain ps = .ok ⟨shown, []⟩ := by
  obtain ⟨_, c, plain', through, marks, tags⟩ := display_inert_append h position ⟨text, [], []⟩ plain []
  rw [List.append_nil] at through
  refine ⟨(c.put plain'.reverse).text, ?_⟩
  rw [through]
  simp [display, Canvas.finish, Canvas.put, marks, tags]

theorem render_plain {t : Text} (plain : Plain t) : ∃ shown, render t = .ok ⟨shown, []⟩ :=
  display_inert (inert_pieces_plain plain) ..

/-- Escaped text behind a text without brackets is shown whatever it holds, and in no style. -/
theorem render_escape {opening : Text} (plain : Plain opening) (t : Text) :
    ∃ shown, render (opening ++ escape t) = .ok ⟨shown, []⟩ :=
  display_inert (inert_pieces_append plain (inert_pieces_escape t)) ..

end DependencyAudit.Markup
