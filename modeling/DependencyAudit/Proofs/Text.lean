import DependencyAudit.Text.Basic
import Mathlib.Data.List.DropRight

namespace DependencyAudit

section Splitting

variable {α : Type}

theorem mem_intercalate {separator : List α} {a : α} {ts : List (List α)} (h : a ∈ separator.intercalate ts) :
    (∃ t ∈ ts, a ∈ t) ∨ a ∈ separator := by
  induction ts with
  | nil => exact absurd h List.not_mem_nil
  | cons t ts ih =>
    cases ts with
    | nil => exact .inl ⟨t, List.mem_cons_self, by simpa [List.intercalate] using h⟩
    | cons u us =>
      rw [List.intercalate_cons_cons, List.mem_append, List.mem_append] at h
      rcases h with (h | h) | h
      · exact .inl ⟨t, List.mem_cons_self, h⟩
      · exact .inr h
      · rcases ih h with ⟨v, hv, h⟩ | h
        · exact .inl ⟨v, List.mem_cons_of_mem t hv, h⟩
        · exact .inr h

theorem mem_intercalate_of_mem {separator : List α} {a : α} {t : List α} {ts : List (List α)} (ht : t ∈ ts)
    (ha : a ∈ t) : a ∈ separator.intercalate ts := by
  induction ts with
  | nil => exact absurd ht List.not_mem_nil
  | cons u ts ih =>
    cases ts with
    | nil =>
      obtain rfl := List.mem_singleton.1 ht
      simpa [List.intercalate] using ha
    | cons v us =>
      rw [List.intercalate_cons_cons]
      rcases List.mem_cons.1 ht with rfl | ht
      · exact List.mem_append_left _ (List.mem_append_left _ ha)
      · exact List.mem_append_right _ (ih ht)

theorem not_mem_of_mem_splitOn [DecidableEq α] {d : α} {t l : List α} (h : l ∈ t.splitOn d) : d ∉ l := by
  induction t generalizing l with
  | nil =>
    obtain rfl := List.mem_singleton.1 h
    exact List.not_mem_nil
  | cons c t ih =>
    rw [List.splitOn_cons_eq_if_modifyHead] at h
    split at h
    · rcases List.mem_cons.1 h with rfl | h
      · exact List.not_mem_nil
      · exact ih h
    · rename_i other
      cases split : t.splitOn d with
      | nil => exact absurd split (List.splitOn_ne_nil d t)
      | cons u us =>
        rw [split] at h ih
        rcases List.mem_cons.1 h with rfl | h
        · have apart : d ≠ c := fun same => other (beq_iff_eq.2 same.symm)
          exact List.not_mem_cons_of_ne_of_not_mem apart (ih List.mem_cons_self)
        · exact ih (List.mem_cons_of_mem u h)

end Splitting

namespace Text

theorem head_of_trimLeft {t r : Text} {c : Char} (h : trimLeft t = c :: r) : isBlank c = false := by
  induction t with
  | nil => cases h
  | cons d t ih =>
    rw [trimLeft, List.dropWhile_cons] at h
    split at h
    · exact ih h
    · rename_i hd
      obtain ⟨rfl, -⟩ := List.cons.inj h
      exact Bool.eq_false_iff.2 hd

theorem head_of_trim {t r : Text} {c : Char} (h : trim t = c :: r) : isBlank c = false := by
  have kept : trim t <+: trimLeft t := List.rdropWhile_prefix isBlank (trimLeft t)
  obtain ⟨s, hs⟩ := kept
  rw [h, List.cons_append] at hs
  exact head_of_trimLeft hs.symm

theorem trimLeft_append {s t : Text} (h : ∀ c ∈ s, isBlank c = true) : trimLeft (s ++ t) = trimLeft t := by
  rw [trimLeft, List.dropWhile_append_of_pos h]
  rfl

theorem trimLeft_cons {c : Char} (h : isBlank c = false) (r : Text) : trimLeft (c :: r) = c :: r :=
  List.dropWhile_cons_of_neg (Bool.eq_false_iff.1 h)

theorem trimRight_concat {c : Char} (h : isBlank c = false) (t : Text) : trimRight (t ++ [c]) = t ++ [c] := by
  rw [trimRight, List.reverse_append, List.reverse_singleton, List.singleton_append,
    List.dropWhile_cons_of_neg (Bool.eq_false_iff.1 h), List.reverse_cons, List.reverse_reverse]

theorem trimRight_append {s t : Text} (h : trimRight t ≠ []) : trimRight (s ++ t) = s ++ trimRight t := by
  have kept : (t.reverse.dropWhile isBlank).isEmpty = false := by
    rw [List.isEmpty_eq_false_iff]
    intro gone
    apply h
    rw [trimRight, gone]
    rfl
  rw [trimRight, List.reverse_append, List.dropWhile_append, kept]
  simp [trimRight]

theorem trimRight_ne_nil {c : Char} {t : Text} (hc : c ∈ t) (solid : isBlank c = false) : trimRight t ≠ [] := by
  intro gone
  have none_left : t.reverse.dropWhile isBlank = [] := List.reverse_eq_nil_iff.1 gone
  have blank := List.dropWhile_eq_nil_iff.1 none_left c (List.mem_reverse.2 hc)
  rw [solid] at blank
  cases blank

theorem trimLeft_of_blank {t : Text} (h : isBlankLine t = true) : trimLeft t = [] :=
  List.dropWhile_eq_nil_iff.2 (List.all_eq_true.1 h)

theorem trimRight_of_blank {t : Text} (h : isBlankLine t = true) : trimRight t = [] := by
  have blank : isBlankLine t.reverse = true := by
    rw [isBlankLine, List.all_reverse]
    exact h
  rw [trimRight, show t.reverse.dropWhile isBlank = [] from trimLeft_of_blank blank]
  rfl

theorem trimRight_concat_blank {c : Char} (h : isBlank c = true) (t : Text) : trimRight (t ++ [c]) = trimRight t :=
  List.rdropWhile_concat_pos isBlank t c h

theorem isBlankLine_concat {c : Char} (h : isBlank c = true) (t : Text) : isBlankLine (t ++ [c]) = isBlankLine t := by
  simp [isBlankLine, h]

theorem trimLeft_concat {c : Char} {t : Text} (h : isBlankLine t = false) : trimLeft (t ++ [c]) = trimLeft t ++ [c] := by
  have kept : (t.dropWhile isBlank).isEmpty = false := by
    rw [List.isEmpty_eq_false_iff]
    intro gone
    have blank : isBlankLine t = true := List.all_eq_true.2 (List.dropWhile_eq_nil_iff.1 gone)
    rw [h] at blank
    cases blank
  rw [trimLeft, List.dropWhile_append, kept]
  rfl

theorem trim_concat_blank {c : Char} (h : isBlank c = true) (t : Text) : trim (t ++ [c]) = trim t := by
  cases blank : isBlankLine t with
  | true =>
    have both : isBlankLine (t ++ [c]) = true := by rw [isBlankLine_concat h, blank]
    rw [trim, trim, trimLeft_of_blank both, trimLeft_of_blank blank]
  | false => rw [trim, trimLeft_concat blank, trimRight_concat_blank h, trim]

/-- What is left of a text by trimming starts as the text does behind its blanks. -/
theorem exists_trim_eq_cons {t : Text} {c : Char} (h : (trimLeft t).head? = some c) : ∃ r, trim t = c :: r := by
  obtain ⟨r, starts⟩ := List.head?_eq_some_iff.1 h
  have kept : trimRight (c :: r) ≠ [] := trimRight_ne_nil List.mem_cons_self (head_of_trimLeft starts)
  obtain ⟨d, u, trimmed⟩ := List.exists_cons_of_ne_nil kept
  have same : trimRight (c :: r) <+: c :: r := List.rdropWhile_prefix isBlank (c :: r)
  rw [trimmed, List.cons_prefix_cons] at same
  refine ⟨u, ?_⟩
  rw [trim, starts, trimmed, same.1]

theorem afterWord_eq_some {w t r : Text} : afterWord w t = some r ↔ t = w ++ r := by
  induction w generalizing t with
  | nil =>
    rw [afterWord]
    exact ⟨Option.some.inj, congrArg some⟩
  | cons c w ih =>
    cases t with
    | nil => simp [afterWord]
    | cons d t =>
      rw [afterWord]
      split
      · rename_i same
        rw [ih, same, List.cons_append, List.cons.injEq, and_iff_right rfl]
      · rename_i other
        constructor
        · intro h
          cases h
        · intro h
          exact absurd (List.cons.inj h).1.symm other

/-- A text is parted at the first place of a character in one way only. -/
theorem takeWhile_dropWhile_ne {d e : Char} {r s t : Text} :
    r.takeWhile (· ≠ d) = s ∧ r.dropWhile (· ≠ d) = e :: t ↔ e = d ∧ d ∉ s ∧ r = s ++ d :: t := by
  constructor
  · rintro ⟨rfl, behind⟩
    have first := List.head?_dropWhile_not (· ≠ d) r
    rw [behind] at first
    obtain rfl : e = d := by simpa using first
    refine ⟨rfl, ?_, ?_⟩
    · intro mem
      simpa using List.mem_takeWhile_imp mem
    · rw [← behind, List.takeWhile_append_dropWhile]
  · rintro ⟨rfl, free, rfl⟩
    have other : ∀ c ∈ s, decide (c ≠ e) = true := by
      intro c hc
      have apart : c ≠ e := fun same => free (same ▸ hc)
      simpa using apart
    constructor
    · rw [List.takeWhile_append_of_pos other, List.takeWhile_cons_of_neg (by simp), List.append_nil]
    · rw [List.dropWhile_append_of_pos other, List.dropWhile_cons_of_neg (by simp)]

theorem cutFirst_of_not_mem {d : Char} {t : Text} (h : d ∉ t) : cutFirst d t = none := by
  induction t with
  | nil => rfl
  | cons c t ih =>
    have hc : d ≠ c := List.ne_of_not_mem_cons h
    rw [cutFirst, if_neg hc.symm, ih (List.not_mem_of_not_mem_cons h)]
    rfl

theorem cutFirst_concat {c d : Char} (h : c ≠ d) (t : Text) :
    cutFirst d (t ++ [c]) = (cutFirst d t).map fun (before, after) => (before, after ++ [c]) := by
  induction t with
  | nil => simp [cutFirst, h]
  | cons e t ih =>
    rw [List.cons_append, cutFirst, cutFirst, ih]
    split
    · rfl
    · cases cutFirst d t <;> rfl

theorem cutLast_of_not_mem {d : Char} {t : Text} (h : d ∉ t) : cutLast d t = none := by
  induction t with
  | nil => rfl
  | cons c t ih =>
    have hc : d ≠ c := List.ne_of_not_mem_cons h
    rw [cutLast, ih (List.not_mem_of_not_mem_cons h)]
    exact if_neg hc.symm

theorem cutLast_append {d : Char} {r : Text} (h : d ∉ r) (s : Text) : cutLast d (s ++ d :: r) = some (s, r) := by
  induction s with
  | nil =>
    rw [List.nil_append, cutLast, cutLast_of_not_mem h]
    exact if_pos rfl
  | cons c s ih =>
    rw [List.cons_append, cutLast, ih]

theorem not_mem_of_cutLast {d : Char} {t : Text} (h : cutLast d t = none) : d ∉ t := by
  induction t with
  | nil => exact List.not_mem_nil
  | cons c t ih =>
    rw [cutLast] at h
    split at h
    · cases h
    · rename_i uncut
      split at h
      · cases h
      · rename_i other
        exact List.not_mem_cons_of_ne_of_not_mem (Ne.symm other) (ih uncut)

/-- A text is cut in one way only: nothing that stands behind the cut is the character cut at. -/
theorem cutLast_eq_some {d : Char} {t s r : Text} : cutLast d t = some (s, r) ↔ t = s ++ d :: r ∧ d ∉ r := by
  constructor
  · intro h
    induction t generalizing s with
    | nil => cases h
    | cons c t ih =>
      rw [cutLast] at h
      split at h
      · rename_i before after cut
        obtain ⟨rfl, rfl⟩ := Prod.mk.inj (Option.some.inj h)
        obtain ⟨rfl, last⟩ := ih cut
        exact ⟨rfl, last⟩
      · rename_i uncut
        split at h
        · rename_i here
          obtain ⟨rfl, rfl⟩ := Prod.mk.inj (Option.some.inj h)
          exact ⟨here ▸ rfl, not_mem_of_cutLast uncut⟩
        · cases h
  · rintro ⟨rfl, last⟩
    exact cutLast_append last s

theorem mem_of_mem_trim {c : Char} {t : Text} (h : c ∈ trim t) : c ∈ t := by
  have kept : trim t <+: trimLeft t := List.rdropWhile_prefix isBlank (trimLeft t)
  have dropped : trimLeft t <:+ t := List.dropWhile_suffix isBlank
  exact dropped.subset (kept.subset h)

theorem trim_sublist (t : Text) : (trim t).Sublist t := by
  have kept : trim t <+: trimLeft t := List.rdropWhile_prefix isBlank (trimLeft t)
  have dropped : trimLeft t <:+ t := List.dropWhile_suffix isBlank
  exact kept.sublist.trans dropped.sublist

theorem trim_trim (t : Text) : trim (trim t) = trim t := by
  have left : trimLeft (trim t) = trim t := by
    cases h : trim t with
    | nil => rfl
    | cons c r => exact trimLeft_cons (head_of_trim h) r
  rw [trim, left]
  exact List.rdropWhile_idempotent isBlank (trimLeft t)

theorem trimRight_of_suffix {s t : Text} (h : s <:+ t) (trimmed : trimRight t = t) : trimRight s = s := by
  obtain ⟨r, rfl⟩ := h
  apply List.rdropWhile_eq_self_iff.2
  intro present
  have last := List.rdropWhile_eq_self_iff.1 trimmed (List.append_ne_nil_of_right_ne_nil r present)
  rwa [List.getLast_append_of_ne_nil] at last

theorem trimRight_trim (t : Text) : trimRight (trim t) = trim t :=
  List.rdropWhile_idempotent isBlank (trimLeft t)

theorem trimLeft_append_cons {c : Char} (solid : isBlank c = false) (s r : Text) :
    trimLeft (s ++ c :: r) = trimLeft s ++ c :: r := by
  induction s with
  | nil => exact trimLeft_cons solid r
  | cons b s ih =>
    cases blank : isBlank b with
    | true => rw [List.cons_append, trimLeft, trimLeft, List.dropWhile_cons_of_pos blank, List.dropWhile_cons_of_pos blank,
        ← trimLeft, ih, trimLeft]
    | false => rw [List.cons_append, trimLeft_cons blank, trimLeft_cons blank, List.cons_append]

theorem trimRight_append_blank {s t : Text} (blank : ∀ c ∈ t, isBlank c = true) :
    trimRight (s ++ t) = trimRight s := by
  rw [trimRight, List.reverse_append, List.dropWhile_append_of_pos fun c hc => blank c (List.mem_reverse.1 hc)]
  rfl

theorem pushFirst_append {c : Char} {ts us : List Text} (h : ts ≠ []) :
    pushFirst c (ts ++ us) = pushFirst c ts ++ us := by
  cases ts with
  | nil => exact absurd rfl h
  | cons t ts => rfl

theorem joinWith_singleton (t : Text) : joinWith ", " [t] = t := by
  simp [joinWith, List.intercalate]

theorem joinWith_cons (t u : Text) (us : List Text) :
    joinWith ", " (t :: u :: us) = t ++ ',' :: ' ' :: joinWith ", " (u :: us) := by
  simp [joinWith, List.intercalate]

theorem mem_joinWith {separator : String} {c : Char} {ts : List Text} (h : c ∈ joinWith separator ts) :
    (∃ t ∈ ts, c ∈ t) ∨ c ∈ separator.toList := mem_intercalate h

/-- Texts put together with commas and blanks are split into the first and the others behind their blank. -/
theorem splitOn_joinWith {t : Text} {ts : List Text} (h : ∀ u ∈ t :: ts, ',' ∉ u) :
    (joinWith ", " (t :: ts)).splitOn ',' = t :: ts.map (' ' :: ·) := by
  induction ts generalizing t with
  | nil =>
    rw [joinWith_singleton]
    exact List.splitOn_eq_singleton (h t List.mem_cons_self)
  | cons u us ih =>
    have first : ',' ∉ t := h t List.mem_cons_self
    have rest := ih fun v hv => h v (List.mem_cons_of_mem t hv)
    rw [joinWith_cons, List.splitOn_append_cons_self_of_not_mem first]
    rw [List.splitOn_cons_eq_if_modifyHead, rest]
    rfl

end Text

end DependencyAudit
