import DependencyAudit.Proofs.Alternatives

namespace DependencyAudit.VersionSpec

/-- A version as an alternative may decorate it: operators and blanks in front, perhaps a mark with blanks behind it,
and blanks at the end. -/
structure Decorated where
  front : Text
  gap? : Option Text
  version : Text
  tail : Text
  front_skipped : ∀ c ∈ front, isSkipped c = true
  gap_blank : ∀ gap ∈ gap?, ∀ c ∈ gap, Text.isBlank c = true
  tail_blank : ∀ c ∈ tail, Text.isBlank c = true
  version_ne : version ≠ []
  version_trimmed : Text.trim version = version
  version_plain : ∀ c ∈ version, c ≠ '|' ∧ c ≠ '@'
  version_first : ∀ c ∈ version.head?, isOperator c = false ∧ c ≠ 'v'

namespace Decorated

variable (d : Decorated)

def mark : Text :=
  match d.gap? with
  | some gap => 'v' :: gap
  | none => []

def text : Text := d.front ++ (d.mark ++ (d.version ++ d.tail))

theorem mark_cases : d.mark = [] ∨ ∃ gap, d.mark = 'v' :: gap ∧ ∀ c ∈ gap, Text.isBlank c = true := by
  have blank := d.gap_blank
  rw [mark]
  cases known : d.gap? with
  | none => exact .inl rfl
  | some gap => exact .inr ⟨gap, rfl, blank gap known⟩

theorem version_solid : ∀ c ∈ d.version.head?, isSkipped c = false := by
  intro c hc
  obtain ⟨r, starts⟩ := List.head?_eq_some_iff.1 hc
  have solid : Text.isBlank c = false := Text.head_of_trim (d.version_trimmed.trans starts)
  rw [isSkipped, (d.version_first c hc).1, solid]
  rfl

theorem exists_mark_version :
    ∃ c r, d.mark ++ (d.version ++ d.tail) = c :: r ∧ Text.isBlank c = false := by
  obtain ⟨c, v, named⟩ := List.exists_cons_of_ne_nil d.version_ne
  have solid : Text.isBlank c = false := not_blank_of_not_skipped (d.version_solid c (by rw [named]; rfl))
  rcases d.mark_cases with unmarked | ⟨gap, marked, -⟩
  · rw [unmarked, named]
    exact ⟨c, v ++ d.tail, rfl, solid⟩
  · rw [marked]
    exact ⟨'v', gap ++ (d.version ++ d.tail), rfl, rfl⟩

/-- Trimming takes blanks off the decoration only. -/
theorem trim_text : Text.trim d.text = Text.trimLeft d.front ++ (d.mark ++ d.version) := by
  obtain ⟨c, r, starts, solid⟩ := d.exists_mark_version
  have ends : Text.trimRight d.version = d.version := by
    rw [← d.version_trimmed]
    exact Text.trimRight_trim d.version
  have kept : Text.trimRight d.version ≠ [] := ends.symm ▸ d.version_ne
  rw [Text.trim, text, starts, Text.trimLeft_append_cons solid, ← starts, ← List.append_assoc, ← List.append_assoc,
    Text.trimRight_append_blank d.tail_blank, Text.trimRight_append kept, ends, List.append_assoc]

theorem bare_text : bare d.text = d.version := by
  have skipped : ∀ c ∈ Text.trimLeft d.front, isSkipped c = true :=
    fun c hc => d.front_skipped c ((List.dropWhile_suffix Text.isBlank).subset hc)
  have trimmed := d.trim_text
  apply IsBare.eq_bare
  rcases d.mark_cases with unmarked | ⟨gap, marked, blank⟩
  · rw [unmarked, List.nil_append] at trimmed
    exact .unmarked trimmed skipped fun c hc => ⟨d.version_solid c hc, (d.version_first c hc).2⟩
  · rw [marked, List.cons_append] at trimmed
    exact .marked trimmed skipped blank fun c hc => not_blank_of_not_skipped (d.version_solid c hc)

end Decorated

/-- What stands between bars: a decorated version, or nothing but operators and blanks. -/
inductive Part where
  | version (d : Decorated)
  | filler (t : Text) (skipped : ∀ c ∈ t, isSkipped c = true)

namespace Part

def text : Part → Text
  | .version d => d.text
  | .filler t _ => t

def version? : Part → Option Text
  | .version d => some d.version
  | .filler .. => none

theorem bare_text (p : Part) : bare p.text = p.version?.getD [] := by
  cases p with
  | version d => exact d.bare_text
  | filler t skipped =>
    have rest : ∀ c ∈ Text.trim t, isSkipped c = true := fun c hc => skipped c (Text.mem_of_mem_trim hc)
    exact bare_eq_of_front (List.append_nil _).symm rest fun c hc => absurd hc (Option.not_mem_none c)

theorem not_mem_text (p : Part) {c : Char} (other : c = '|' ∨ c = '@') : c ∉ p.text := by
  have skipped {t : Text} (h : ∀ c ∈ t, isSkipped c = true) : c ∉ t := by
    intro mem
    have known := h c mem
    rcases other with rfl | rfl <;> exact absurd known (by decide)
  cases p with
  | filler t h => exact skipped h
  | version d =>
    have blank {t : Text} (h : ∀ c ∈ t, Text.isBlank c = true) : c ∉ t := by
      refine skipped fun e he => ?_
      rw [isSkipped, h e he, Bool.or_true]
    have mark : c ∉ d.mark := by
      rcases d.mark_cases with unmarked | ⟨gap, marked, gap_blank⟩
      · rw [unmarked]
        exact List.not_mem_nil
      · rw [marked]
        refine List.not_mem_cons_of_ne_of_not_mem ?_ (blank gap_blank)
        rcases other with rfl | rfl <;> decide
    have version : c ∉ d.version := by
      intro mem
      obtain ⟨bar, at_sign⟩ := d.version_plain c mem
      exact other.elim bar at_sign
    simp only [text, Decorated.text, List.mem_append, not_or]
    exact ⟨skipped d.front_skipped, mark, version, blank d.tail_blank⟩

end Part

theorem alternation_joinWith {t : Text} {ts : List Text} (h : ∀ u ∈ t :: ts, '|' ∉ u) :
    Alternation (t :: ts) (Text.joinWith "||" (t :: ts)) := by
  have first : '|' ∉ t := h t List.mem_cons_self
  have unparted : ¬ bars <:+: t := fun inside => first (inside.subset (by decide))
  induction ts generalizing t with
  | nil =>
    simp only [Text.joinWith, List.intercalate_singleton]
    exact .last unparted
  | cons u us ih =>
    have rest := fun v hv => h v (List.mem_cons_of_mem t hv)
    have behind := ih rest (rest u List.mem_cons_self) fun inside => rest u List.mem_cons_self (inside.subset (by decide))
    have joined : Text.joinWith "||" (t :: u :: us) = t ++ '|' :: '|' :: Text.joinWith "||" (u :: us) := by
      simp [Text.joinWith, List.intercalate]
    rw [joined]
    exact .cons unparted (fun last => first (List.mem_of_getLast? last)) behind

theorem filter_bare_parts (ps : List Part) :
    (((ps.map Part.text).map bare).filter fun v => v ≠ []) = ps.filterMap Part.version? := by
  induction ps with
  | nil => rfl
  | cons p ps ih =>
    rw [List.map_cons, List.map_cons, List.filter_cons, ih, p.bare_text]
    cases p with
    | version d => simp [Part.version?, d.version_ne]
    | filler t skipped => rfl

/-- From alternatives in any decoration, and from any that say nothing between them, exactly the versions are read, in
their order and as often as they stand there. -/
theorem candidates_joinWith (ps : List Part) :
    candidates (Text.joinWith "||" (ps.map Part.text)) = ps.filterMap Part.version? := by
  cases ps with
  | nil => rfl
  | cons p ps =>
    have free (c : Char) (other : c = '|' ∨ c = '@') : ∀ t ∈ (p :: ps).map Part.text, c ∉ t := by
      intro t ht
      obtain ⟨q, _, rfl⟩ := List.mem_map.1 ht
      exact q.not_mem_text other
    have no_alias : ∀ before behind, ¬ AliasAt (Text.joinWith "||" ((p :: ps).map Part.text)) before behind := by
      intro before behind found
      rcases Text.mem_joinWith found.at_mem with ⟨t, ht, mem⟩ | mem
      · exact free '@' (.inr rfl) t ht mem
      · exact absurd mem (by decide)
    have parted : alternatives (Text.joinWith "||" ((p :: ps).map Part.text)) = (p :: ps).map Part.text :=
      alternation_iff.1 (alternation_joinWith (free '|' (.inl rfl)))
    rw [candidates_of_not_aliased no_alias, parted]
    exact filter_bare_parts (p :: ps)

theorem candidates_joinWith_mixed :
    let spec : Text := " >= v 1.0.0 || ^ ||~2.0.0\t||1.0.0".toList
    let versions : List Text := ["1.0.0".toList, "2.0.0".toList, "1.0.0".toList]
    ∃ ps : List Part, Text.joinWith "||" (ps.map Part.text) = spec ∧ ps.filterMap Part.version? = versions ∧
      candidates spec = versions := by
  intro spec versions
  have skipped {t : Text} (h : t.all isSkipped = true) : ∀ c ∈ t, isSkipped c = true := List.all_eq_true.1 h
  let marked : Decorated := ⟨" >= ".toList, some [' '], "1.0.0".toList, [' '], skipped rfl, by simp [Text.isBlank],
    by simp [Text.isBlank], by simp, rfl, by simp, by simp [isOperator]⟩
  let unmarked : Decorated := ⟨['~'], none, "2.0.0".toList, ['\t'], skipped rfl, by simp, by simp [Text.isBlank],
    by simp, rfl, by simp, by simp [isOperator]⟩
  let undecorated : Decorated := ⟨[], none, "1.0.0".toList, [], by simp, by simp, by simp, by simp, rfl, by simp,
    by simp [isOperator]⟩
  let ps : List Part := [.version marked, .filler " ^ ".toList (skipped rfl), .version unmarked, .version undecorated]
  have joined : Text.joinWith "||" (ps.map Part.text) = spec := rfl
  have read := candidates_joinWith ps
  rw [joined] at read
  exact ⟨ps, joined, rfl, read⟩

example : candidates " >= v 1.0.0 || ^ ||~2.0.0\t||1.0.0".toList =
    ["1.0.0".toList, "2.0.0".toList, "1.0.0".toList] := by decide

end DependencyAudit.VersionSpec
