import DependencyAudit.Proofs.Console.Escaping

namespace DependencyAudit.Markup

/-- No opening bracket of the first text that opens no tag there opens one together with the second. -/
def Apart (t u : Text) : Prop :=
  ∀ before w, t = before ++ '[' :: w → tagWords? w = none → tagWords? (w ++ u) = none

section Apart

variable {t u : Text}

theorem Apart.of_append {s : Text} (h : Apart (s ++ t) u) : Apart t u := by
  intro before w same
  exact h (s ++ before) w (by rw [same, List.append_assoc])

/-- Only a text whose first bracket is a closing one can close what another one has opened. -/
theorem apart_of_first (first : u.find? isBracket ≠ some ']') (t : Text) : Apart t u := by
  intro _ w _ none_left
  rw [tagWords?_eq_none] at none_left ⊢
  cases w with
  | nil => exact .inr first
  | cons c w =>
    rcases none_left with head | own
    · exact .inl head
    · right
      rw [List.find?_append]
      cases found : (c :: w).find? isBracket with
      | none => exact first
      | some d =>
        rw [found] at own
        exact own

/-- Texts apart are read one after the other; backslashes that the first ends with go with the second. -/
theorem pieces_append (apart : Apart t u) (n : Nat) :
    ∃ ps k, pieces n t = ps ++ [⟨k, .ending⟩] ∧ pieces n (t ++ u) = ps ++ pieces k u := by
  fun_induction pieces n t with
  | case1 n => exact ⟨[], n, rfl, rfl⟩
  | case2 n r ih =>
    obtain ⟨ps, k, alone, joined⟩ := ih (apart.of_append (s := ['\\']))
    refine ⟨ps, k, alone, ?_⟩
    rw [List.cons_append, pieces_backslash, joined]
  | case3 n r words rest found _ _ ih =>
    obtain ⟨isTag, rfl⟩ := tagWords?_eq_some.1 found
    have written : '[' :: (words ++ ']' :: rest) = tagText words ++ rest := by simp [tagText]
    rw [written] at apart ⊢
    obtain ⟨ps, k, alone, joined⟩ := ih apart.of_append
    refine ⟨⟨n, .tag words⟩ :: ps, k, ?_, ?_⟩
    · rw [alone, List.cons_append]
    · rw [List.append_assoc, pieces_tag isTag, joined, List.cons_append]
  | case4 n r none_left _ ih =>
    obtain ⟨ps, k, alone, joined⟩ := ih (apart.of_append (s := ['[']))
    refine ⟨⟨n, .character '['⟩ :: ps, k, ?_, ?_⟩
    · rw [alone, List.cons_append]
    · rw [List.cons_append, pieces_character (by decide) fun _ => apart [] r rfl none_left, joined, List.cons_append]
  | case5 n c r slash opening ih =>
    obtain ⟨ps, k, alone, joined⟩ := ih (apart.of_append (s := [c]))
    refine ⟨⟨n, .character c⟩ :: ps, k, ?_, ?_⟩
    · rw [alone, List.cons_append]
    · rw [List.cons_append, pieces_character slash fun h => absurd h opening, joined, List.cons_append]

theorem inert_append (apart : Apart t u) (first : Inert (pieces 0 t)) (second : ∀ k, Inert (pieces k u)) :
    Inert (pieces 0 (t ++ u)) := by
  obtain ⟨ps, k, alone, joined⟩ := pieces_append apart 0
  rw [alone] at first
  rw [joined]
  exact first.of_append.append (second k)

/-- A text that starts with a character of its own is read alike behind backslashes. -/
theorem inert_pieces_behind {c : Char} {opening : Text} (plain : Plain (c :: opening)) (h : Inert (pieces 0 t))
    (k : Nat) : Inert (pieces k (c :: opening ++ t)) := by
  obtain ⟨⟨slash, bracket⟩, others⟩ := plain_cons.1 plain
  rw [List.cons_append, pieces_character slash fun same => absurd same bracket]
  intro p hp words body
  rcases List.mem_cons.1 hp with rfl | hp
  · cases body
  · exact inert_pieces_append others h p hp words body

end Apart

section Across

variable {w : Text}

/-- Around the last bracket of a text, if it is an opening one, the text is cut in one way. -/
theorem last_bracket_unique {before before' w' : Text} (clean : ∀ c ∈ w, isBracket c = false)
    (clean' : ∀ c ∈ w', isBracket c = false) (same : before ++ '[' :: w = before' ++ '[' :: w') :
    before = before' ∧ w = w' := by
  have inside {v v' x : Text} (clean : ∀ c ∈ v, isBracket c = false) (h : '[' :: v = x ++ '[' :: v') : x = [] := by
    cases x with
    | nil => rfl
    | cons c x =>
      obtain ⟨-, rfl⟩ := List.cons.inj h
      cases clean '[' (List.mem_append_right _ List.mem_cons_self)
  rcases List.append_eq_append_iff.1 same with ⟨x, rfl, tail⟩ | ⟨x, rfl, tail⟩
  · obtain rfl := inside clean tail
    exact ⟨(List.append_nil _).symm, (List.cons.inj tail).2⟩
  · obtain rfl := inside clean' tail
    exact ⟨List.append_nil _, (List.cons.inj tail).2.symm⟩

/-- Texts with the same brackets end in an opening one alike. -/
theorem exists_last_bracket {s t before : Text} (same : s.filter isBracket = t.filter isBracket)
    (clean : ∀ c ∈ w, isBracket c = false) (h : s = before ++ '[' :: w) :
    ∃ before' w', t = before' ++ '[' :: w' ∧ ∀ c ∈ w', isBracket c = false := by
  have rest : w.filter isBracket = [] := List.filter_eq_nil_iff.2 fun c hc => by simp [clean c hc]
  rw [h, List.filter_append, List.filter_cons_of_pos rfl, rest] at same
  obtain ⟨l, r, rfl, -, opening⟩ := List.filter_eq_append_iff.1 same.symm
  obtain ⟨l', w', rfl, -, -, none_left⟩ := List.filter_eq_cons_iff.1 opening
  refine ⟨l ++ l', w', (List.append_assoc ..).symm, ?_⟩
  intro c hc
  simpa using List.filter_eq_nil_iff.1 none_left c hc

theorem tagWords?_of_clean (clean : ∀ c ∈ w, isBracket c = false) : tagWords? w = none := by
  apply tagWords?_eq_none.2
  right
  rw [List.find?_eq_none.2 fun c hc => by simp [clean c hc]]
  exact nofun

theorem clean_escape (clean : ∀ c ∈ w, isBracket c = false) : ∀ c ∈ escape w, isBracket c = false := by
  have none_left : (escape w).filter isBracket = [] := by
    rw [filter_escape]
    exact List.filter_eq_nil_iff.2 fun c hc => by simp [clean c hc]
  simpa using List.filter_eq_nil_iff.1 none_left

theorem find?_opening (t : Text) : ('[' :: t).find? isBracket ≠ some ']' := by
  rw [List.find?_cons_of_pos rfl]
  decide

/-- What stands around the last bracket of a text is escaped on its own, if it is an opening one. -/
theorem escape_around_bracket (before : Text) (clean : ∀ c ∈ w, isBracket c = false) :
    ∃ ps k, pieces 0 before = ps ++ [⟨k, .ending⟩] ∧
      escape (before ++ '[' :: w) = ps.flatMap Piece.escaped ++ slashRun k ++ '[' :: escape w := by
  obtain ⟨ps, k, alone, joined⟩ := pieces_append (apart_of_first (find?_opening w) before) 0
  refine ⟨ps, k, alone, ?_⟩
  rw [escape, joined, pieces_character (by decide) fun _ => tagWords?_of_clean clean]
  simp [Piece.escaped, Piece.source, escape]

/-- The last bracket of a text opens a tag that the first bracket of another text closes. -/
structure TagAcross (sign : Char) (first second : Text) : Prop where
  opens : opensTag sign = true
  unclosed : ∃ before rest, first = before ++ '[' :: sign :: rest ∧ ∀ c ∈ rest, isBracket c = false
  closing : second.find? isBracket = some ']'

variable {first second between : Text} {c : Char}

/-- Texts that are escaped on their own are apart unless they make a tag together, whatever is put between them. -/
theorem tagAcross_of_not_apart (start : opensTag c = false) (clean : ∀ d ∈ c :: between, isBracket d = false)
    (h : ¬ Apart (escape first) (c :: between ++ escape second)) : ∃ sign, TagAcross sign first second := by
  simp only [Apart, not_forall] at h
  obtain ⟨before, w, same, alone, together⟩ := h
  have closed : (w ++ (c :: between ++ escape second)).find? isBracket = some ']' := by
    by_contra other
    exact together (tagWords?_eq_none.2 (.inr other))
  obtain ⟨⟨words, rest⟩, found⟩ := Option.ne_none_iff_exists'.1 together
  obtain ⟨⟨sign, words, rfl, opens, -⟩, whole⟩ := tagWords?_eq_some.1 found
  cases w with
  | nil =>
    obtain ⟨rfl, -⟩ := List.cons.inj whole
    rw [start] at opens
    cases opens
  | cons d w =>
    obtain ⟨rfl, -⟩ := List.cons.inj whole
    -- A tag that is closed in the first text is one there.
    have unclosed : (d :: w).find? isBracket = none := by
      rcases tagWords?_eq_none.1 alone with head | own
      · rw [head d rfl] at opens
        cases opens
      · rw [List.find?_append] at closed
        cases found : (d :: w).find? isBracket with
        | none => rfl
        | some e =>
          rw [found] at own closed
          exact absurd closed own
    rw [List.find?_append, unclosed, Option.none_or, List.find?_append,
      List.find?_eq_none.2 fun e he => by simp [clean e he], Option.none_or, find?_escape] at closed
    have clean_tail : ∀ e ∈ d :: w, isBracket e = false := by simpa using List.find?_eq_none.1 unclosed
    obtain ⟨before', w', rfl, clean'⟩ := exists_last_bracket (filter_escape first) clean_tail same
    obtain ⟨ps, k, -, written⟩ := escape_around_bracket before' clean'
    obtain ⟨-, tail⟩ := last_bracket_unique (clean_escape clean') clean_tail (written.symm.trans same)
    have head : w'.head? = some d := by
      rcases head?_escape w' with alike | backslash
      · rw [← alike, tail]
        rfl
      · rw [tail] at backslash
        obtain rfl : d = '\\' := Option.some.inj backslash
        exact absurd opens (by decide)
    obtain ⟨w', rfl⟩ := List.head?_eq_some_iff.1 head
    exact ⟨d, opens, ⟨before', w', rfl, fun e he => clean' e (List.mem_cons_of_mem d he)⟩, closed⟩

theorem escape_cons {sign : Char} (opens : opensTag sign = true) (rest : Text) :
    escape (sign :: rest) = sign :: escape rest := by
  have slash : sign ≠ '\\' := by
    rintro rfl
    revert opens
    decide
  have bracket : sign ≠ '[' := by
    rintro rfl
    revert opens
    decide
  rw [escape, pieces_character slash fun h => absurd h bracket]
  rfl

/-- A tag that two texts make together takes effect, escaped as they are, unless there is a backslash before it. -/
theorem TagAcross.pieces {sign : Char} (h : TagAcross sign first second) (slashless : '\\' ∉ first)
    (clean : ∀ d ∈ between, isBracket d = false) :
    ∃ ps words qs, Inert ps ∧
      pieces 0 (escape first ++ (between ++ escape second)) = ps ++ ⟨0, .tag (sign :: words)⟩ :: qs := by
  obtain ⟨opens, ⟨before, rest, rfl, clean_rest⟩, closing⟩ := h
  have clean_tail : ∀ d ∈ sign :: rest, isBracket d = false :=
    List.forall_mem_cons.2 ⟨isBracket_of_opensTag opens, clean_rest⟩
  obtain ⟨ps, k, alone, written⟩ := escape_around_bracket before clean_tail
  obtain rfl : k = 0 := by
    have source := flatMap_source 0 before
    cases k with
    | zero => rfl
    | succ k =>
      have slash : '\\' ∈ slashRun 0 ++ before := by
        rw [← source, alone]
        simp [Piece.source, slashRun]
      exact absurd (List.mem_append_left _ slash) slashless
  have escaped : escape before = ps.flatMap Piece.escaped := by
    rw [escape, alone]
    simp [Piece.escaped, slashRun]
  rw [← find?_escape] at closing
  obtain ⟨-, inner, tail, closes, clean_inner⟩ := List.find?_eq_some_iff_append.1 closing
  let words : Text := escape rest ++ (between ++ inner)
  have isTag : IsTag (sign :: words) := by
    refine ⟨sign, words, rfl, opens, ?_⟩
    intro d hd
    rcases List.mem_append.1 hd with hd | hd
    · exact clean_escape clean_rest d hd
    · rcases List.mem_append.1 hd with hd | hd
      · exact clean d hd
      · simpa using clean_inner d hd
  have whole : escape (before ++ '[' :: sign :: rest) ++ (between ++ escape second) =
      escape before ++ (tagText (sign :: words) ++ tail) := by
    rw [written, escaped, escape_cons opens, closes]
    simp [tagText, slashRun, words]
  obtain ⟨qs, j, alone', joined⟩ := pieces_append
    (apart_of_first (find?_opening (sign :: words ++ [']'] ++ tail)) (escape before)) 0
  have inert : Inert (pieces 0 (escape before)) := inert_pieces_escape before
  have both : qs ++ [⟨j, .ending⟩] = ps.map Piece.inert ++ [⟨0, .ending⟩] := by
    rw [← alone', escape, pieces_escaped, alone]
    simp [Piece.inert]
  obtain ⟨-, last⟩ := List.append_inj' both rfl
  obtain rfl : j = 0 := congrArg Piece.slashes (List.head_eq_of_cons_eq last)
  refine ⟨qs, words, pieces 0 tail, ?_, ?_⟩
  · rw [alone'] at inert
    exact inert.of_append
  · rw [whole, ← pieces_tag isTag]
    exact joined

/-- There is nothing to close where nothing is open. -/
theorem applyTag_closing_eq_error {canvas : Canvas} (h : canvas.tags = []) (words : Text) (position : Nat) :
    ∃ f, applyTag ('/' :: words) position canvas = .error f := by
  have whole : ('/' :: words).takeWhile (· ≠ '=') = '/' :: words.takeWhile (· ≠ '=') :=
    List.takeWhile_cons_of_pos (by decide)
  unfold applyTag
  rw [whole, h]
  simp only
  split
  · exact ⟨_, rfl⟩
  · cases Style.canonical (words.takeWhile (· ≠ '=')) <;> exact ⟨_, rfl⟩

/-- Two texts that are escaped on their own are shown in no style unless they make a tag together. -/
theorem render_escape_pair (opening between : Text) (plain : Plain opening) (plain_between : Plain (c :: between))
    (start : opensTag c = false) (clean : ∀ d ∈ c :: between, isBracket d = false)
    (h : ∀ sign, ¬ TagAcross sign first second) :
    ∃ shown, render (opening ++ (escape first ++ (c :: between ++ escape second))) = .ok ⟨shown, []⟩ := by
  have apart : Apart (escape first) (c :: between ++ escape second) := by
    by_contra together
    obtain ⟨sign, across⟩ := tagAcross_of_not_apart start clean together
    exact h sign across
  have inert := inert_append apart (inert_pieces_escape first)
    (inert_pieces_behind plain_between (inert_pieces_escape second))
  exact display_inert (inert_pieces_append plain inert) ..

/-- A closing tag that two texts make together is not read. -/
theorem TagAcross.render (h : TagAcross '/' first second) (slashless : '\\' ∉ first) (opening between : Text)
    (plain : Plain opening) (clean : ∀ d ∈ between, isBracket d = false) :
    ∃ f, render (opening ++ (escape first ++ (between ++ escape second))) = .error f := by
  obtain ⟨ps, words, qs, inert, read⟩ := h.pieces slashless clean
  obtain ⟨next, canvas, shown, through, -, tags⟩ := display_inert_append ((inert_characters opening).append inert) 0
    ⟨[], [], []⟩ [] (⟨0, .tag ('/' :: words)⟩ :: qs)
  have nothing_open : ((canvas.put shown.reverse).put (slashRun 0)).tags = [] := tags
  obtain ⟨f, refused⟩ := applyTag_closing_eq_error nothing_open words (next + 0)
  refine ⟨f, ?_⟩
  rw [Markup.render, pieces_plain plain, read, ← List.append_assoc, through, display_tag _ _ _ _ _ rfl, refused]
  rfl

end Across

end DependencyAudit.Markup
