import DependencyAudit.Json.Reader
import Mathlib.Data.List.Nodup

namespace DependencyAudit

theorem exists_of_map_eq_ok {ε α β : Type} {x : Except ε α} {f : α → β} {b : β} (h : x.map f = .ok b) :
    ∃ a, x = .ok a ∧ f a = b := by
  cases x with
  | error e => cases h
  | ok a => exact ⟨a, rfl, Except.ok.inj h⟩

namespace Json

/-- No object in a value has two members of one name. -/
inductive Keyed : Json → Prop
  | null : Keyed .null
  | bool {b : Bool} : Keyed (.bool b)
  | integer {n : Int} : Keyed (.integer n)
  | real {x : Decimal.Double} : Keyed (.real x)
  | string {s : List CodePoint} : Keyed (.string s)
  | array {vs : List Json} (each : ∀ v ∈ vs, Keyed v) : Keyed (.array vs)
  | object {ms : List (List CodePoint × Json)} (nodup : (ms.map (·.1)).Nodup) (each : ∀ m ∈ ms, Keyed m.2) :
    Keyed (.object ms)

theorem Keyed.emptyObject : (Json.object []).Keyed :=
  .object List.nodup_nil fun _ hm => absurd hm List.not_mem_nil

variable {name : List CodePoint} {v : Json} {ms : List (List CodePoint × Json)}

theorem names_setMember :
    (setMember name v ms).map (·.1) = if name ∈ ms.map (·.1) then ms.map (·.1) else ms.map (·.1) ++ [name] := by
  induction ms with
  | nil => simp [setMember]
  | cons m ms ih =>
    by_cases same : m.1 = name
    · simp [setMember, same]
    · have other : name ≠ m.1 := Ne.symm same
      rw [setMember, if_neg same, List.map_cons, ih]
      by_cases known : name ∈ ms.map (·.1) <;> simp_all

theorem nodup_setMember (h : (ms.map (·.1)).Nodup) : ((setMember name v ms).map (·.1)).Nodup := by
  rw [names_setMember]
  split
  · exact h
  · rename_i new
    rw [List.nodup_append]
    refine ⟨h, List.nodup_singleton _, ?_⟩
    intro n hn m hm same
    obtain rfl := List.mem_singleton.1 hm
    exact new (same ▸ hn)

theorem mem_setMember {m : List CodePoint × Json} (h : m ∈ setMember name v ms) : m.2 = v ∨ m ∈ ms := by
  induction ms with
  | nil =>
    obtain rfl := List.mem_singleton.1 h
    exact .inl rfl
  | cons k ms ih =>
    rw [setMember] at h
    split at h
    · rcases List.mem_cons.1 h with rfl | h
      · exact .inl rfl
      · exact .inr (List.mem_cons_of_mem k h)
    · rcases List.mem_cons.1 h with rfl | h
      · exact .inr List.mem_cons_self
      · exact (ih h).imp_right (List.mem_cons_of_mem k)

/-- A new name comes last. -/
theorem setMember_of_not_mem (h : name ∉ ms.map (·.1)) : setMember name v ms = ms ++ [(name, v)] := by
  induction ms with
  | nil => rfl
  | cons m ms ih =>
    rw [List.map_cons, List.mem_cons, not_or] at h
    rw [setMember, if_neg (Ne.symm h.1), ih h.2, List.cons_append]

theorem Keyed.setMember (h : (Json.object ms).Keyed) (hv : v.Keyed) : (Json.object (setMember name v ms)).Keyed := by
  cases h with
  | object nodup each =>
    refine .object (nodup_setMember nodup) ?_
    intro m hm
    rcases mem_setMember hm with rfl | hm
    · exact hv
    · exact each m hm

theorem keyed_unsigned {start t r : Text} {negative : Bool} (h : unsigned start negative t = .ok (v, r)) :
    v.Keyed := by
  simp only [unsigned] at h
  split at h
  · cases h
  · split at h
    · split at h
      · cases h
      · obtain ⟨rfl, -⟩ := Prod.mk.inj (Except.ok.inj h)
        exact .integer
    · obtain ⟨rfl, -⟩ := Prod.mk.inj (Except.ok.inj h)
      exact .real

theorem keyed_word {t r : Text} (h : word? t = some (v, r)) : v.Keyed := by
  obtain ⟨⟨w, u⟩, hw, h⟩ := List.exists_of_findSome?_eq_some h
  obtain ⟨_, -, same⟩ := Option.map_eq_some_iff.1 h
  obtain ⟨rfl, -⟩ := Prod.mk.inj same
  simp only [List.mem_cons, Prod.mk.injEq, List.not_mem_nil, or_false] at hw
  rcases hw with ⟨-, rfl⟩ | ⟨-, rfl⟩ | ⟨-, rfl⟩ | ⟨-, rfl⟩ | ⟨-, rfl⟩ | ⟨-, rfl⟩
  · exact .null
  · exact .bool
  · exact .bool
  all_goals exact .real

theorem keyed_scalar {t r : Text} (h : scalar t = .ok (v, r)) : v.Keyed := by
  unfold scalar at h
  split at h
  · rename_i found
    obtain rfl := Except.ok.inj h
    exact keyed_word found
  · split at h
    · exact keyed_unsigned h
    · exact keyed_unsigned h

/-- What a reading with so much fuel keeps: of a value, of the items of an array and of the members of an object. -/
structure KeepsKeyed (fuel : Nat) : Prop where
  value : ∀ depth t v r, Json.value fuel depth t = .ok (v, r) → v.Keyed
  items : ∀ depth done t vs r, (∀ v ∈ done, v.Keyed) → Json.items fuel depth done t = .ok (vs, r) → ∀ v ∈ vs, v.Keyed
  members : ∀ depth done t ms r, (Json.object done).Keyed → Json.members fuel depth done t = .ok (ms, r) →
    (Json.object ms).Keyed

namespace KeepsKeyed

variable {fuel : Nat} (less : KeepsKeyed fuel) (depth : Nat)

include less

theorem value_succ (t : Text) (v : Json) (r : Text) (h : Json.value (fuel + 1) depth t = .ok (v, r)) : v.Keyed := by
  unfold Json.value at h
  split at h
  · obtain ⟨⟨s, rest⟩, -, same⟩ := exists_of_map_eq_ok h
    obtain ⟨rfl, -⟩ := Prod.mk.inj same
    exact .string
  · split at h
    · cases h
    · obtain ⟨rfl, -⟩ := Prod.mk.inj (Except.ok.inj h)
      exact .array fun _ hv => absurd hv List.not_mem_nil
    · obtain ⟨⟨vs, rest⟩, hvs, same⟩ := exists_of_map_eq_ok h
      obtain ⟨rfl, -⟩ := Prod.mk.inj same
      exact .array (less.items _ _ _ _ _ (fun _ hv => absurd hv List.not_mem_nil) hvs)
  · split at h
    · cases h
    · obtain ⟨rfl, -⟩ := Prod.mk.inj (Except.ok.inj h)
      exact .emptyObject
    · obtain ⟨⟨ms, rest⟩, hms, same⟩ := exists_of_map_eq_ok h
      obtain ⟨rfl, -⟩ := Prod.mk.inj same
      exact less.members _ _ _ _ _ .emptyObject hms
  · exact keyed_scalar h

theorem items_succ (done : List Json) (t : Text) (vs : List Json) (r : Text) (hdone : ∀ v ∈ done, v.Keyed)
    (h : Json.items (fuel + 1) depth done t = .ok (vs, r)) : ∀ v ∈ vs, v.Keyed := by
  unfold Json.items at h
  split at h
  · cases h
  · rename_i u rest read
    have all : ∀ w ∈ u :: done, w.Keyed := List.forall_mem_cons.2 ⟨less.value _ _ _ _ read, hdone⟩
    split at h
    · exact less.items _ _ _ _ _ all h
    · obtain ⟨rfl, -⟩ := Prod.mk.inj (Except.ok.inj h)
      intro w hw
      exact all w (List.mem_reverse.1 hw)
    · cases h

theorem members_succ (done : List (List CodePoint × Json)) (t : Text) (ms : List (List CodePoint × Json)) (r : Text)
    (hdone : (Json.object done).Keyed) (h : Json.members (fuel + 1) depth done t = .ok (ms, r)) :
    (Json.object ms).Keyed := by
  unfold Json.members at h
  split at h
  · split at h
    · cases h
    · rename_i name rest _
      split at h
      · split at h
        · cases h
        · rename_i u rest' read
          have all : (Json.object (setMember name u done)).Keyed := hdone.setMember (less.value _ _ _ _ read)
          split at h
          · exact less.members _ _ _ _ _ all h
          · obtain ⟨rfl, -⟩ := Prod.mk.inj (Except.ok.inj h)
            exact all
          · cases h
      · cases h
  · cases h

end KeepsKeyed

theorem keepsKeyed (fuel : Nat) : KeepsKeyed fuel := by
  induction fuel with
  | zero =>
    refine ⟨?_, ?_, ?_⟩
    · intro depth t v r h
      cases h
    · intro depth done t vs r _ h
      cases h
    · intro depth done t ms r _ h
      cases h
  | succ fuel less => exact ⟨less.value_succ, less.items_succ, less.members_succ⟩

/-- Of members of one name the last one counts, so that what is read has no name twice. -/
theorem keyed_of_read? {depth : Nat} {t : Text} {v : Json} (h : read? depth t = some v) : v.Keyed := by
  rw [read?, read, readAll] at h
  split at h
  · cases h
  · cases read : value (2 * t.length + 2) depth (skipGap t) with
    | error f =>
      rw [read] at h
      cases h
    | ok found =>
      obtain ⟨u, rest⟩ := found
      rw [read] at h
      dsimp only at h
      split at h
      · obtain rfl := Option.some.inj h
        exact (keepsKeyed _).value _ _ _ _ read
      · cases h

theorem Keyed.nodup_names (h : (Json.object ms).Keyed) : (ms.map (·.1)).Nodup := by
  cases h with
  | object nodup each => exact nodup

/-- A member that an object has is the only one of its name. -/
theorem Keyed.mem_iff {t : Text} (h : (Json.object ms).Keyed) :
    (Json.object ms).member? t = some v ↔ (CodePoint.ofText t, v) ∈ ms := by
  cases h with
  | object nodup each =>
    rw [member?, Option.map_eq_some_iff]
    constructor
    · rintro ⟨m, hm, rfl⟩
      have named : m.1 = CodePoint.ofText t := by simpa using List.find?_some hm
      rw [← named]
      exact List.mem_of_find?_eq_some hm
    · intro hm
      cases found : ms.find? fun m => m.1 = CodePoint.ofText t with
      | none =>
        have missing := List.find?_eq_none.1 found _ hm
        simp at missing
      | some m =>
        have named : m.1 = CodePoint.ofText t := by simpa using List.find?_some found
        have same := List.inj_on_of_nodup_map nodup (List.mem_of_find?_eq_some found) hm named
        exact ⟨m, rfl, congrArg Prod.snd same⟩

theorem Keyed.member {t : Text} {u : Json} (h : v.Keyed) (hu : v.member? t = some u) : u.Keyed := by
  cases h with
  | object nodup each =>
    have here := (Keyed.mem_iff (.object nodup each)).1 hu
    exact each _ here
  | null | bool | integer | real | string | array => cases hu

end Json

end DependencyAudit
