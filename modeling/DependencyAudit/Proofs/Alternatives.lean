import DependencyAudit.Proofs.Candidates
import DependencyAudit.Proofs.Lookup
import Mathlib.Data.List.Forall2

namespace DependencyAudit.VersionSpec

/-- A text as its alternatives, with bars behind each but the last. Of several bars in a row the first ones part, so
that no alternative before them ends in a bar. -/
inductive Alternation : List Text → Text → Prop
  | last {t : Text} (unparted : ¬ bars <:+: t) : Alternation [t] t
  | cons {t rest : Text} {ts : List Text} (unparted : ¬ bars <:+: t) (closed : t.getLast? ≠ some '|')
      (behind : Alternation ts rest) : Alternation (t :: ts) (t ++ '|' :: '|' :: rest)

theorem alternatives_ne_nil (t : Text) : alternatives t ≠ [] := by
  fun_induction alternatives t with
  | case1 => simp
  | case2 => simp
  | case3 c r _ _ => cases alternatives r <;> simp [Text.pushFirst]

theorem alternatives_cons {c : Char} {r : Text} (apart : ∀ s, c = '|' → r ≠ '|' :: s) :
    alternatives (c :: r) = Text.pushFirst c (alternatives r) := by
  rw [alternatives]
  intro s bar same
  exact apart s bar same

/-- Behind a text that ends in no bar, bars part it from what follows. -/
theorem alternatives_append {a : Text} (closed : a.getLast? ≠ some '|') (b : Text) :
    alternatives (a ++ '|' :: '|' :: b) = alternatives a ++ alternatives b := by
  fun_induction alternatives a with
  | case1 => rfl
  | case2 r ih =>
    cases r with
    | nil => exact absurd rfl closed
    | cons d r => exact congrArg (List.cons []) (ih closed)
  | case3 c r apart ih =>
    cases r with
    | nil =>
      have other : c ≠ '|' := fun same => closed (same ▸ rfl)
      rw [List.singleton_append, alternatives_cons fun _ bar => absurd bar other]
      rfl
    | cons d r =>
      rw [List.cons_append, alternatives_cons, ih closed, Text.pushFirst_append (alternatives_ne_nil _)]
      rintro s rfl starts
      obtain ⟨rfl, -⟩ := List.cons.inj starts
      exact apart r rfl rfl

theorem Alternation.pushFirst {ts : List Text} {c : Char} {r : Text} (h : Alternation ts r)
    (apart : ∀ s, c = '|' → r ≠ '|' :: s) : Alternation (Text.pushFirst c ts) (c :: r) := by
  have unparted {t rest : Text} (free : ¬ bars <:+: t) (whole : r = t ++ rest) : ¬ bars <:+: c :: t := by
    intro inside
    rcases List.infix_cons_iff.1 inside with ⟨s, starts⟩ | inside
    · obtain ⟨rfl, rfl⟩ := List.cons.inj starts
      exact apart (s ++ rest) rfl whole
    · exact free inside
  cases h with
  | last free => exact .last (unparted free (List.append_nil r).symm)
  | @cons t rest ts free closed behind =>
    refine .cons (unparted free rfl) ?_ behind
    cases t with
    | nil =>
      intro bar
      exact apart ('|' :: rest) (Option.some.inj bar) rfl
    | cons d t => exact closed

/-- A text has its alternatives in one way only. -/
theorem alternation_iff {ts : List Text} {t : Text} : Alternation ts t ↔ alternatives t = ts := by
  constructor
  · intro h
    induction h with
    | @last t unparted =>
      rcases alternatives_shape t with ⟨_, whole⟩ | ⟨parted, _⟩
      · exact whole
      · exact absurd parted unparted
    | @cons t rest ts unparted closed behind ih =>
      rcases alternatives_shape t with ⟨_, whole⟩ | ⟨parted, _⟩
      · rw [alternatives_append closed, whole, ih, List.singleton_append]
      · exact absurd parted unparted
  · rintro rfl
    fun_induction alternatives t with
    | case1 => exact .last (by decide)
    | case2 r ih => exact .cons (by decide) (by decide) ih
    | case3 c r apart ih =>
      refine ih.pushFirst ?_
      rintro s rfl rfl
      exact apart s rfl rfl

theorem Alternation.unparted {ts : List Text} {t : Text} (h : Alternation ts t) : ∀ u ∈ ts, ¬ bars <:+: u := by
  induction h with
  | last unparted => exact List.forall_mem_singleton.2 unparted
  | cons unparted closed behind ih => exact List.forall_mem_cons.2 ⟨unparted, ih⟩

/-- A character that is dropped in front of a version. -/
def isSkipped (c : Char) : Bool := isOperator c || Text.isBlank c

/-- What is left of an alternative: its ends are trimmed, then operators and blanks in front are dropped, then one mark
with the blanks behind it. -/
inductive IsBare : Text → Text → Prop
  | unmarked {t front v : Text} (trimmed : Text.trim t = front ++ v) (skipped : ∀ c ∈ front, isSkipped c = true)
      (first : ∀ c ∈ v.head?, isSkipped c = false ∧ c ≠ 'v') : IsBare t v
  | marked {t front gap v : Text} (trimmed : Text.trim t = front ++ 'v' :: (gap ++ v))
      (skipped : ∀ c ∈ front, isSkipped c = true) (blank : ∀ c ∈ gap, Text.isBlank c = true)
      (first : ∀ c ∈ v.head?, Text.isBlank c = false) : IsBare t v

theorem not_blank_of_not_skipped {c : Char} (h : isSkipped c = false) : Text.isBlank c = false :=
  (Bool.or_eq_false_iff.1 h).2

theorem dropMark_of_head {v : Text} (first : ∀ c ∈ v.head?, c ≠ 'v') : dropMark v = v := by
  rw [dropMark.eq_def]
  split
  · exact absurd rfl (first 'v' rfl)
  · rfl

/-- An alternative is bared by cutting its trimmed text where the operators and blanks in front of it end. -/
theorem bare_eq_of_front {t front rest : Text} (trimmed : Text.trim t = front ++ rest)
    (skipped : ∀ c ∈ front, isSkipped c = true) (first : ∀ c ∈ rest.head?, isSkipped c = false) :
    bare t = Text.trim (dropMark rest) := by
  have dropped : (Text.trim t).dropWhile isSkipped = rest := by
    rw [trimmed, List.dropWhile_append_of_pos skipped]
    cases rest with
    | nil => rfl
    | cons c r => exact List.dropWhile_cons_of_neg (Bool.eq_false_iff.1 (first c rfl))
  have unfolded : bare t = Text.trim (dropMark ((Text.trim t).dropWhile isSkipped)) := rfl
  rw [unfolded, dropped]

namespace IsBare

variable {t v : Text}

theorem exists_trim_eq (h : IsBare t v) : ∃ s, Text.trim t = s ++ v ∧ ∀ c ∈ v.head?, Text.isBlank c = false := by
  cases h with
  | @unmarked front _ trimmed skipped first =>
    exact ⟨front, trimmed, fun c hc => not_blank_of_not_skipped (first c hc).1⟩
  | @marked front gap _ trimmed skipped blank first =>
    refine ⟨front ++ 'v' :: gap, ?_, first⟩
    rw [trimmed, List.append_assoc, List.cons_append]

theorem trim_eq (h : IsBare t v) : Text.trim v = v := by
  obtain ⟨s, trimmed, first⟩ := h.exists_trim_eq
  have left : Text.trimLeft v = v := by
    cases v with
    | nil => rfl
    | cons c r => exact Text.trimLeft_cons (first c rfl) r
  rw [Text.trim, left]
  exact Text.trimRight_of_suffix ⟨s, trimmed.symm⟩ (Text.trimRight_trim t)

theorem isInfix (h : IsBare t v) : v <:+: t := by
  obtain ⟨s, trimmed, -⟩ := h.exists_trim_eq
  have kept : Text.trim t <+: Text.trimLeft t := List.rdropWhile_prefix Text.isBlank (Text.trimLeft t)
  have dropped : Text.trimLeft t <:+ t := List.dropWhile_suffix Text.isBlank
  have behind : v <:+: Text.trim t := ⟨s, [], by rw [trimmed, List.append_nil]⟩
  exact behind.trans (kept.isInfix.trans dropped.isInfix)

theorem eq_bare (h : IsBare t v) : bare t = v := by
  have ends := h.trim_eq
  cases h with
  | unmarked trimmed skipped first =>
    rw [bare_eq_of_front trimmed skipped fun c hc => (first c hc).1, dropMark_of_head fun c hc => (first c hc).2, ends]
  | @marked front gap _ trimmed skipped blank first =>
    have mark : ∀ c ∈ ('v' :: (gap ++ v)).head?, isSkipped c = false := by
      intro c hc
      obtain rfl := Option.some.inj hc
      rfl
    rw [bare_eq_of_front trimmed skipped mark, dropMark, Text.trim, Text.trimLeft_append blank, ← Text.trim, ends]

end IsBare

theorem isBare_bare (t : Text) : IsBare t (bare t) := by
  obtain ⟨front, rest, trimmed, skipped, first⟩ : ∃ front rest, Text.trim t = front ++ rest ∧
      (∀ c ∈ front, isSkipped c = true) ∧ ∀ c ∈ rest.head?, isSkipped c = false := by
    refine ⟨(Text.trim t).takeWhile isSkipped, (Text.trim t).dropWhile isSkipped,
      List.takeWhile_append_dropWhile.symm, fun c hc => List.mem_takeWhile_imp hc, ?_⟩
    intro c hc
    have stops := List.head?_dropWhile_not isSkipped (Text.trim t)
    rw [hc] at stops
    simpa using stops
  have ends {s r : Text} (whole : Text.trim t = s ++ r) : Text.trimRight r = r :=
    Text.trimRight_of_suffix ⟨s, whole.symm⟩ (Text.trimRight_trim t)
  rw [bare_eq_of_front trimmed skipped first]
  cases rest with
  | nil =>
    have none_left : Text.trim (dropMark []) = [] := rfl
    rw [none_left]
    exact .unmarked trimmed skipped fun c hc => absurd hc (Option.not_mem_none c)
  | cons c r =>
    by_cases mark : c = 'v'
    · subst mark
      have parts : r = r.takeWhile Text.isBlank ++ Text.trimLeft r := List.takeWhile_append_dropWhile.symm
      have marked : Text.trim t = front ++ 'v' :: (r.takeWhile Text.isBlank ++ Text.trimLeft r) := by
        rw [trimmed, ← parts]
      have whole : Text.trim t = (front ++ 'v' :: r.takeWhile Text.isBlank) ++ Text.trimLeft r := by
        rw [marked, List.append_assoc, List.cons_append]
      rw [dropMark, Text.trim, ends whole]
      refine .marked marked skipped (fun c hc => List.mem_takeWhile_imp hc) ?_
      intro c hc
      obtain ⟨s, starts⟩ := List.head?_eq_some_iff.1 hc
      exact Text.head_of_trimLeft starts
    · have plain : ∀ d ∈ (c :: r).head?, isSkipped d = false ∧ d ≠ 'v' := by
        intro d hd
        obtain rfl := Option.some.inj hd
        exact ⟨first _ hd, mark⟩
      rw [dropMark_of_head fun d hd => (plain d hd).2, Text.trim,
        Text.trimLeft_cons (not_blank_of_not_skipped (first c rfl)), ends trimmed]
      exact .unmarked trimmed skipped plain

theorem candidates_of_not_aliased {spec : Text} (free : ∀ before behind, ¬ AliasAt spec before behind) :
    candidates spec = ((alternatives spec).map bare).filter fun v => v ≠ [] := by
  rw [candidates, aliased?_eq_none.2 free]

/-- What the candidates of any specification are. If an alias stands in it, they are one: what stands up to the next
blank behind the at-sign of the leftmost alias. Else each alternative that is not bare of everything gives one, in the
order of the alternatives, and bars behind a text that ends in no bar part the candidates of the whole. -/
theorem candidates_shape (spec : Text) :
    ((∃ before behind, AliasAt spec before behind) →
      ∃ before version after, AliasAt spec before (version ++ after) ∧
        (∀ before' behind', AliasAt spec before' behind' → before.length ≤ before'.length) ∧
        version ≠ [] ∧ (∀ c ∈ version, Text.isBlank c = false) ∧ (∀ c ∈ after.head?, Text.isBlank c = true) ∧
        candidates spec = [version]) ∧
    ((∀ before behind, ¬ AliasAt spec before behind) →
      (∃ ts vs, Alternation ts spec ∧ List.Forall₂ IsBare ts vs ∧ candidates spec = (vs.filter fun v => v ≠ []) ∧
        ∀ v ∈ candidates spec, v ≠ [] ∧ Text.trim v = v ∧ ¬ bars <:+: v) ∧
      ∀ a b, spec = a ++ '|' :: '|' :: b → a.getLast? ≠ some '|' → candidates spec = candidates a ++ candidates b) := by
  constructor
  · rintro ⟨before, behind, found⟩
    obtain ⟨version, stated⟩ : ∃ version, aliased? spec = some version := by
      apply Option.ne_none_iff_exists'.1
      intro missing
      exact aliased?_eq_none.1 missing before behind found
    obtain ⟨first, rest, place, rfl, leftmost⟩ := exists_of_aliased? stated
    refine ⟨first, rest.takeWhile (!Text.isBlank ·), rest.dropWhile (!Text.isBlank ·), ?_, leftmost, ?_, ?_, ?_, ?_⟩
    · rw [List.takeWhile_append_dropWhile]
      exact place
    · obtain ⟨_, _, _, starts, _⟩ := place
      exact takeWhile_solid_ne_nil.2 starts
    · intro c hc
      simpa using List.mem_takeWhile_imp hc
    · intro c hc
      have stops := List.head?_dropWhile_not (!Text.isBlank ·) rest
      rw [hc] at stops
      simpa using stops
    · rw [candidates, stated]
  · intro free
    have bared := candidates_of_not_aliased free
    have shape : Alternation (alternatives spec) spec := alternation_iff.2 rfl
    constructor
    · refine ⟨alternatives spec, (alternatives spec).map bare, shape, ?_, bared, ?_⟩
      · rw [List.forall₂_map_right_iff, List.forall₂_same]
        intro t _
        exact isBare_bare t
      · intro v hv
        rw [bared] at hv
        obtain ⟨mem, present⟩ := List.mem_filter.1 hv
        obtain ⟨t, ht, rfl⟩ := List.mem_map.1 mem
        refine ⟨of_decide_eq_true present, (isBare_bare t).trim_eq, ?_⟩
        intro inside
        exact shape.unparted t ht (inside.trans (isBare_bare t).isInfix)
    · rintro a b rfl closed
      have free_a : ∀ before behind, ¬ AliasAt a before behind :=
        fun before behind found => free before _ (found.append_right ('|' :: '|' :: b))
      have free_b : ∀ before behind, ¬ AliasAt b before behind :=
        fun before behind found => free _ behind ((found.append_left ['|', '|']).append_left a)
      rw [bared, alternatives_append closed, List.map_append, List.filter_append, candidates_of_not_aliased free_a,
        candidates_of_not_aliased free_b]

/-- Two aliases fail before the one that counts: a package cannot start with an at-sign, nor a version with a blank. Of
three bars in a row the last one belongs to the alternative behind them. -/
theorem candidates_shape_scoped :
    let aliased : Text := "npm:@scope/x@1 npm:y@ 2 npm:safe@3 || 4".toList
    let plain : Text := ">= v1|||2".toList
    (∃ before behind, AliasAt aliased before behind) ∧
      (∃ before version after, AliasAt aliased before (version ++ after) ∧ candidates aliased = [version]) ∧
      (∀ before behind, ¬ AliasAt plain before behind) ∧
      candidates plain = candidates ">= v1".toList ++ candidates "|2".toList := by
  intro aliased plain
  have found : ∃ before behind, AliasAt aliased before behind := by
    obtain ⟨before, behind, place, -⟩ := exists_of_aliased? (by decide : aliased? aliased = some "3".toList)
    exact ⟨before, behind, place⟩
  have free : ∀ before behind, ¬ AliasAt plain before behind := aliased?_eq_none.1 (by decide)
  obtain ⟨before, version, after, place, -, -, -, -, one⟩ := (candidates_shape aliased).1 found
  obtain ⟨-, parted⟩ := (candidates_shape plain).2 free
  exact ⟨found, ⟨before, version, after, place, one⟩, free, parted ">= v1".toList "|2".toList rfl (by decide)⟩

end DependencyAudit.VersionSpec
