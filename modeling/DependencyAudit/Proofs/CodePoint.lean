import DependencyAudit.Text.CodePoint
import Mathlib.Data.List.Basic

namespace DependencyAudit

namespace CodePoint

theorem mem_ofText {c : Char} {t : Text} : .scalar c ∈ ofText t ↔ c ∈ t :=
  List.mem_map_of_injective fun _ _ => CodePoint.scalar.inj

@[simp] theorem ofText_inj {s t : Text} : ofText s = ofText t ↔ s = t :=
  (List.map_injective_iff.2 fun _ _ => CodePoint.scalar.inj).eq_iff

@[simp] theorem chars_nil : chars [] = [] := rfl

@[simp] theorem chars_append (s t : List CodePoint) : chars (s ++ t) = chars s ++ chars t := List.filterMap_append

@[simp] theorem chars_ofText (t : Text) : chars (ofText t) = t := by
  rw [chars, ofText, List.filterMap_map]
  exact List.filterMap_some

theorem toText?_ofText (t : Text) : toText? (ofText t) = some t := by
  induction t with
  | nil => rfl
  | cons c t ih =>
    rw [toText?] at ih
    rw [toText?, ofText, List.map_cons, List.mapM_cons, show t.map scalar = ofText t from rfl, ih]
    rfl

theorem toText?_eq_some {s : List CodePoint} {t : Text} : toText? s = some t ↔ s = ofText t := by
  constructor
  · intro h
    induction s generalizing t with
    | nil =>
      obtain rfl : [] = t := Option.some.inj h
      rfl
    | cons p s ih =>
      rw [toText?, List.mapM_cons] at h
      obtain ⟨c, hc, h⟩ := Option.bind_eq_some_iff.1 h
      obtain ⟨r, hr, h⟩ := Option.bind_eq_some_iff.1 h
      obtain rfl : c :: r = t := Option.some.inj h
      cases p with
      | scalar d =>
        obtain rfl : d = c := Option.some.inj hc
        exact congrArg (List.cons _) (ih hr)
      | lone u => cases hc
  · rintro rfl
    exact toText?_ofText t

end CodePoint

namespace Name

theorem isText_iff {n : Name} : n.isText = true ↔ ∀ p ∈ n, p.isLone = false := by
  simp [isText]

@[simp] theorem isText_ofText (t : Text) : isText (CodePoint.ofText t) = true := by
  rw [isText_iff]
  intro p hp
  obtain ⟨c, -, rfl⟩ := List.mem_map.1 hp
  rfl

@[simp] theorem isText_append (m n : Name) : isText (m ++ n) = (isText m && isText n) := List.all_append

/-- A name without lone surrogates is a text. -/
theorem isText_iff_exists {n : Name} : n.isText = true ↔ ∃ t, n = CodePoint.ofText t := by
  constructor
  · intro h
    induction n with
    | nil => exact ⟨[], rfl⟩
    | cons p n ih =>
      rw [isText_iff, List.forall_mem_cons] at h
      obtain ⟨whole, rest⟩ := h
      obtain ⟨t, rfl⟩ := ih (isText_iff.2 rest)
      cases p with
      | scalar c => exact ⟨c :: t, rfl⟩
      | lone u => cases whole
  · rintro ⟨t, rfl⟩
    exact isText_ofText t

theorem loneRun?_scalar (c : Char) (n : Name) :
    loneRun? (.scalar c :: n) = (loneRun? n).map fun run => ⟨run.first, run.count, run.place + 1⟩ := by
  have ahead : List.takeWhile (!·.isLone) (.scalar c :: n) = .scalar c :: List.takeWhile (!·.isLone) n := rfl
  rw [loneRun?, loneRun?, ahead]
  simp only [List.length_cons, List.drop_succ_cons]
  cases n.drop (n.takeWhile (!·.isLone)).length with
  | nil => rfl
  | cons p rest => cases p <;> rfl

theorem loneRun?_eq_none {n : Name} : loneRun? n = none ↔ n.isText = true := by
  induction n with
  | nil => exact iff_of_true rfl rfl
  | cons p n ih =>
    cases p with
    | scalar c =>
      rw [loneRun?_scalar, Option.map_eq_none_iff, ih]
      exact Iff.rfl
    | lone u => exact iff_of_false (by simp [loneRun?, CodePoint.isLone]) (by simp [isText, CodePoint.isLone])

end Name

end DependencyAudit
