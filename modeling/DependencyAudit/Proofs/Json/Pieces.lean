import DependencyAudit.Proofs.Json.Lexemes
import Mathlib.Data.List.TakeWhile

namespace DependencyAudit.Json

/-- All strings and names in a value are of one kind, and all integers of another; it has no number of double
precision. -/
inductive Throughout (string : List CodePoint → Prop) (integer : Int → Prop) : Json → Prop
  | null : Throughout string integer .null
  | bool {b : Bool} : Throughout string integer (.bool b)
  | integer {n : Int} (kind : integer n) : Throughout string integer (.integer n)
  | string {s : List CodePoint} (kind : string s) : Throughout string integer (.string s)
  | array {vs : List Json} (items : ∀ v ∈ vs, Throughout string integer v) : Throughout string integer (.array vs)
  | object {ms : List (List CodePoint × Json)} (names : ∀ m ∈ ms, string m.1)
      (values : ∀ m ∈ ms, Throughout string integer m.2) : Throughout string integer (.object ms)

/-- A piece of code points of one kind; an integer that is too long is granted or not. -/
def Piece.All (good : CodePoint → Prop) (long : Prop) : Piece → Prop
  | .points ps => ∀ p ∈ ps, good p
  | .longInteger => long

theorem Piece.points_fault? {ps : List CodePoint} : (points ps).fault? = none ↔ Name.isText ps = true := by
  rw [fault?, Option.map_eq_none_iff, Name.loneRun?_eq_none]

/-- A piece without lone surrogates can only be too long an integer. -/
theorem Piece.All.eq_longInteger {p : Piece} {f : WriteFault} (h : p.All (fun q => q.isLone = false) True)
    (faulty : p.fault? = some f) : f = .longInteger := by
  cases p with
  | points ps =>
    rw [points_fault?.2 (Name.isText_iff.2 h)] at faulty
    cases faulty
  | longInteger => exact (Option.some.inj faulty).symm

/-- A piece that is no long integer can only have lone surrogates. -/
theorem Piece.All.exists_lone {p : Piece} {f : WriteFault} (h : p.All (fun _ => True) False)
    (faulty : p.fault? = some f) : ∃ run, f = .lone run := by
  cases p with
  | points ps =>
    obtain ⟨run, -, rfl⟩ := Option.map_eq_some_iff.1 faulty
    exact ⟨run, rfl⟩
  | longInteger => exact absurd h id

section Membership

variable {level : Nat} {p : Piece}

theorem mem_itemPieces {vs : List Json} :
    p ∈ itemPieces level vs ↔ ∃ v ∈ vs, p ∈ pieces level (mark "," ++ newLine level) v := by
  induction vs with
  | nil => simp [itemPieces]
  | cons v vs ih => rw [itemPieces, List.mem_append, ih, List.exists_mem_cons_iff]

theorem mem_memberPieces {ms : List (List CodePoint × Json)} :
    p ∈ memberPieces level ms ↔ ∃ m ∈ ms, p ∈ [.points (mark "," ++ newLine level), .points (printString m.1),
      .points (mark ": ")] ∨ p ∈ pieces level [] m.2 := by
  induction ms with
  | nil => simp [memberPieces]
  | cons m ms ih =>
    obtain ⟨n, v⟩ := m
    rw [memberPieces, List.mem_append, List.mem_append, ih, List.exists_mem_cons_iff]

/-- The pieces of an item are among those of the array, behind one lead or another. -/
theorem exists_lead_of_mem {vs : List Json} {v : Json} (h : v ∈ vs) (lead : List CodePoint) :
    ∃ before, pieces (level + 1) before v ⊆ pieces level lead (.array vs) := by
  cases vs with
  | nil => exact absurd h List.not_mem_nil
  | cons u us =>
    rw [pieces]
    rcases List.mem_cons.1 h with rfl | h
    · refine ⟨mark "[" ++ newLine (level + 1), ?_⟩
      intro p hp
      exact List.mem_append_left _ (List.mem_append_left _ (List.mem_cons_of_mem _ hp))
    · refine ⟨mark "," ++ newLine (level + 1), ?_⟩
      intro p hp
      exact List.mem_append_left _ (List.mem_append_right _ (mem_itemPieces.2 ⟨v, h, hp⟩))

/-- The pieces of a member are among those of the object: its name, and those of its value. -/
theorem pieces_subset_of_mem {ms : List (List CodePoint × Json)} {m : List CodePoint × Json} (h : m ∈ ms)
    (lead : List CodePoint) :
    .points (printString m.1) ∈ pieces level lead (.object ms) ∧
      pieces (level + 1) [] m.2 ⊆ pieces level lead (.object ms) := by
  cases ms with
  | nil => exact absurd h List.not_mem_nil
  | cons l ms =>
    obtain ⟨n, u⟩ := l
    rw [pieces]
    rcases List.mem_cons.1 h with rfl | h
    · refine ⟨by simp, fun p hp => ?_⟩
      exact List.mem_append_left _ (List.mem_append_left _ (List.mem_append_right _ hp))
    · have among {p : Piece} (hp : p ∈ memberPieces (level + 1) ms) :
          p ∈ pieces level lead (.object ((n, u) :: ms)) := by
        rw [pieces]
        exact List.mem_append_left _ (List.mem_append_right _ hp)
      rw [pieces] at among
      exact ⟨among (mem_memberPieces.2 ⟨m, h, .inl (by simp)⟩), fun p hp => among (mem_memberPieces.2 ⟨m, h, .inr hp⟩)⟩

end Membership

theorem isText_of_printString {s : List CodePoint} (h : Name.isText (printString s) = true) :
    Name.isText s = true := by
  rw [Name.isText_iff] at h ⊢
  intro p hp
  cases p with
  | scalar c => rfl
  | lone u =>
    have inside : CodePoint.lone u ∈ s.flatMap escapePoint :=
      List.mem_flatMap.2 ⟨_, hp, List.mem_singleton.2 rfl⟩
    exact h _ (List.mem_append_left _ (List.mem_cons_of_mem _ inside))

theorem return_not_mem_control : ∀ n < 32, '\r' ∉ Text.hexPadded 4 n := by decide

theorem return_not_mem_escapeChar (c : Char) : '\r' ∉ escapeChar c := by
  rw [escapeChar]
  split
  · rename_i special
    rcases special with rfl | rfl <;> decide
  split
  · decide
  split
  · decide
  split
  · decide
  split
  · decide
  split
  · decide
  split
  · rename_i control
    have digits := return_not_mem_control _ control
    simpa using digits
  · rename_i other _ _ _ _
    exact fun mem => other (List.mem_singleton.1 mem).symm

theorem return_not_mem_decimal (n : Nat) : '\r' ∉ Text.decimal n :=
  fun mem => absurd (decimal_isDigit _ mem) (by decide)

theorem return_not_mem_signed (n : Int) : '\r' ∉ Text.signed n := by
  cases n with
  | ofNat n => exact return_not_mem_decimal n
  | negSucc n =>
    have digits := return_not_mem_decimal (n + 1)
    simpa [Text.signed] using digits

section Layout

variable {good : CodePoint → Prop} {long : Prop}

theorem all_points_append {lead ps : List CodePoint} (led : ∀ q ∈ lead, good q) (h : ∀ q ∈ ps, good q) :
    ∀ p ∈ [Piece.points (lead ++ ps)], p.All good long :=
  List.forall_mem_singleton.2 (List.forall_mem_append.2 ⟨led, h⟩)

variable (plain : ∀ c, c ≠ '\r' → good (.scalar c))

include plain

theorem good_ofText {t : Text} (h : '\r' ∉ t) : ∀ q ∈ CodePoint.ofText t, good q := by
  intro q hq
  obtain ⟨c, hc, rfl⟩ := List.mem_map.1 hq
  exact plain c fun same => h (same ▸ hc)

theorem good_newLine (level : Nat) : ∀ q ∈ newLine level, good q := good_ofText plain (by simp)

theorem good_printString {s : List CodePoint} (lone : ∀ u, .lone u ∈ s → good (.lone u)) :
    ∀ q ∈ printString s, good q := by
  have quote : good (.scalar '"') := plain _ (by decide)
  have body : ∀ q ∈ s.flatMap escapePoint, good q := by
    intro q hq
    obtain ⟨p, hp, hq⟩ := List.mem_flatMap.1 hq
    cases p with
    | scalar c => exact good_ofText plain (return_not_mem_escapeChar c) q hq
    | lone u =>
      obtain rfl := List.mem_singleton.1 hq
      exact lone u hp
  rw [printString, List.forall_mem_append, List.forall_mem_cons, List.forall_mem_singleton]
  exact ⟨⟨quote, body⟩, quote⟩

theorem all_itemPieces {level : Nat} {vs : List Json}
    (each : ∀ v ∈ vs, ∀ lead, (∀ q ∈ lead, good q) → ∀ p ∈ pieces level lead v, p.All good long) :
    ∀ p ∈ itemPieces level vs, p.All good long := by
  intro p hp
  obtain ⟨v, hv, hp⟩ := mem_itemPieces.1 hp
  refine each v hv _ ?_ p hp
  exact List.forall_mem_append.2 ⟨good_ofText plain (by decide), good_newLine plain level⟩

theorem all_memberPieces {level : Nat} {ms : List (List CodePoint × Json)}
    (names : ∀ m ∈ ms, ∀ u, .lone u ∈ m.1 → good (.lone u))
    (each : ∀ m ∈ ms, ∀ p ∈ pieces level [] m.2, p.All good long) :
    ∀ p ∈ memberPieces level ms, p.All good long := by
  intro p hp
  obtain ⟨m, hm, hp | hp⟩ := mem_memberPieces.1 hp
  · have all : ∀ p ∈ [Piece.points (mark "," ++ newLine level), .points (printString m.1), .points (mark ": ")],
        p.All good long := by
      rw [List.forall_mem_cons, List.forall_mem_cons, List.forall_mem_singleton]
      exact ⟨List.forall_mem_append.2 ⟨good_ofText plain (by decide), good_newLine plain level⟩,
        good_printString plain (names m hm), good_ofText plain (by decide)⟩
    exact all p hp
  · exact each m hm p hp

/-- In print a carriage return is escaped: the code points are the lone ones of the value's strings, and characters that
are no carriage return. -/
theorem all_pieces {v : Json} (h : Throughout (fun s => ∀ u, .lone u ∈ s → good (.lone u))
    (fun n => isLong n = true → long) v) (level : Nat) {lead : List CodePoint} (led : ∀ q ∈ lead, good q) :
    ∀ p ∈ pieces level lead v, p.All good long := by
  induction h generalizing level lead with
  | null => exact all_points_append led (good_ofText plain (by decide))
  | @bool b => cases b <;> exact all_points_append led (good_ofText plain (by decide))
  | @integer n kind =>
    rw [pieces]
    split
    · rename_i isLong
      exact List.forall_mem_singleton.2 (kind isLong)
    · exact all_points_append led (good_ofText plain (return_not_mem_signed n))
  | string kind => exact all_points_append led (good_printString plain kind)
  | @array vs items ih =>
    cases vs with
    | nil =>
      rw [pieces, List.forall_mem_cons, List.forall_mem_singleton]
      exact ⟨led, good_ofText plain (by decide)⟩
    | cons v vs =>
      have opening : ∀ q ∈ mark "[" ++ newLine (level + 1), good q :=
        List.forall_mem_append.2 ⟨good_ofText plain (by decide), good_newLine plain _⟩
      have first := ih v List.mem_cons_self (level + 1) opening
      have rest : ∀ p ∈ itemPieces (level + 1) vs, p.All good long :=
        all_itemPieces plain fun u hu _ hl => ih u (List.mem_cons_of_mem v hu) _ hl
      rw [pieces, List.forall_mem_append, List.forall_mem_append, List.forall_mem_cons, List.forall_mem_cons,
        List.forall_mem_singleton]
      exact ⟨⟨⟨led, first⟩, rest⟩, good_newLine plain level, good_ofText plain (by decide)⟩
  | @object ms names values ih =>
    cases ms with
    | nil =>
      rw [pieces, List.forall_mem_cons, List.forall_mem_singleton]
      exact ⟨led, good_ofText plain (by decide)⟩
    | cons m ms =>
      obtain ⟨n, v⟩ := m
      have first := ih _ List.mem_cons_self (level + 1) fun q hq => absurd hq List.not_mem_nil
      have rest : ∀ p ∈ memberPieces (level + 1) ms, p.All good long :=
        all_memberPieces plain (fun m hm => names m (List.mem_cons_of_mem _ hm))
          fun m hm => ih m (List.mem_cons_of_mem _ hm) _ fun q hq => absurd hq List.not_mem_nil
      have name := good_printString plain (names _ List.mem_cons_self)
      have colon : ∀ q ∈ mark ": ", good q := good_ofText plain (by decide)
      rw [pieces, List.forall_mem_append, List.forall_mem_append, List.forall_mem_append]
      refine ⟨⟨⟨?_, first⟩, rest⟩, ?_⟩
      · rw [List.forall_mem_cons, List.forall_mem_cons, List.forall_mem_cons, List.forall_mem_cons,
          List.forall_mem_singleton]
        exact ⟨led, good_ofText plain (by decide), good_newLine plain _, name, colon⟩
      · rw [List.forall_mem_cons, List.forall_mem_singleton]
        exact ⟨good_newLine plain level, good_ofText plain (by decide)⟩

end Layout

section Sound

variable {string : List CodePoint → Prop} {integer : Int → Prop} {v : Json}

@[simp] theorem throughout_bool {b : Bool} : Throughout string integer (.bool b) ↔ True := iff_of_true .bool trivial

@[simp] theorem throughout_integer {n : Int} : Throughout string integer (.integer n) ↔ integer n := by
  constructor
  · intro h
    cases h with
    | integer kind => exact kind
  · exact .integer

@[simp] theorem throughout_string {s : List CodePoint} : Throughout string integer (.string s) ↔ string s := by
  constructor
  · intro h
    cases h with
    | string kind => exact kind
  · exact .string

@[simp] theorem throughout_array {vs : List Json} :
    Throughout string integer (.array vs) ↔ ∀ v ∈ vs, Throughout string integer v := by
  constructor
  · intro h
    cases h with
    | array items => exact items
  · exact .array

@[simp] theorem throughout_object {ms : List (List CodePoint × Json)} :
    Throughout string integer (.object ms) ↔ ∀ m ∈ ms, string m.1 ∧ Throughout string integer m.2 := by
  constructor
  · intro h m hm
    cases h with
    | object names values => exact ⟨names m hm, values m hm⟩
  · intro h
    exact .object (fun m hm => (h m hm).1) fun m hm => (h m hm).2

theorem Throughout.imp {string' : List CodePoint → Prop} {integer' : Int → Prop} (h : Throughout string integer v)
    (strings : ∀ s, string s → string' s) (integers : ∀ n, integer n → integer' n) :
    Throughout string' integer' v := by
  induction h with
  | null => exact .null
  | bool => exact .bool
  | integer kind => exact .integer (integers _ kind)
  | string kind => exact .string (strings _ kind)
  | array _ ih => exact .array ih
  | object names _ ih => exact .object (fun m hm => strings _ (names m hm)) ih

/-- Where all strings are text, only an integer can be too much. -/
theorem eq_longInteger_of_write (h : Throughout (fun s => Name.isText s = true) (fun _ => True) v) {f : WriteFault}
    (faulty : (write v).fault = some f) : f = .longInteger := by
  obtain ⟨p, hp, faulty⟩ := List.exists_of_findSome?_eq_some faulty
  have whole : ∀ p ∈ pieces 0 [] v, p.All (fun q => q.isLone = false) True := by
    apply all_pieces (fun _ _ => rfl)
    · exact h.imp (fun s text u hu => Name.isText_iff.1 text _ hu) fun _ _ _ => trivial
    · exact fun q hq => absurd hq List.not_mem_nil
  exact (whole p hp).eq_longInteger faulty

/-- Where no integer is too long, only a lone surrogate can be too much. -/
theorem exists_lone_of_write (h : Throughout (fun _ => True) (fun n => isLong n = false) v) {f : WriteFault}
    (faulty : (write v).fault = some f) : ∃ run, f = .lone run := by
  obtain ⟨p, hp, faulty⟩ := List.exists_of_findSome?_eq_some faulty
  have short : ∀ p ∈ pieces 0 [] v, p.All (fun _ => True) False := by
    apply all_pieces (fun _ _ => trivial)
    · exact h.imp (fun _ _ _ _ => trivial) fun n short long => by rw [short] at long; cases long
    · exact fun q hq => absurd hq List.not_mem_nil
  exact (short p hp).exists_lone faulty

/-- What is printed without a fault has only text for strings, and no integer that is too long. -/
theorem throughout_of_pieces (h : Throughout (fun _ => True) (fun _ => True) v) (level : Nat) (lead : List CodePoint)
    (sound : ∀ p ∈ pieces level lead v, p.fault? = none) :
    Throughout (fun s => Name.isText s = true) (fun n => isLong n = false) v := by
  induction h generalizing level lead with
  | null => exact .null
  | bool => exact .bool
  | @integer n _ =>
    have whole := sound _ (List.mem_singleton.2 rfl)
    apply Throughout.integer
    by_contra long
    rw [if_pos (by simpa using long)] at whole
    cases whole
  | @string s _ =>
    have whole := Piece.points_fault?.1 (sound _ (List.mem_singleton.2 rfl))
    rw [Name.isText_append, Bool.and_eq_true] at whole
    exact .string (isText_of_printString whole.2)
  | array _ ih =>
    refine .array fun v hv => ?_
    obtain ⟨before, among⟩ := exists_lead_of_mem hv lead
    exact ih v hv _ before fun p hp => sound p (among hp)
  | object _ _ ih =>
    refine .object (fun m hm => ?_) fun m hm => ?_
    · have name := sound _ (pieces_subset_of_mem hm lead).1
      exact isText_of_printString (Piece.points_fault?.1 name)
    · exact ih m hm _ [] fun p hp => sound p ((pieces_subset_of_mem hm lead).2 hp)

theorem write_fault_eq_none : (write v).fault = none ↔ ∀ p ∈ pieces 0 [] v, p.fault? = none :=
  List.findSome?_eq_none_iff

/-- A value is printed to its end exactly if its strings are text and its integers short. -/
theorem write_fault_eq_none_iff (h : Throughout (fun _ => True) (fun _ => True) v) :
    (write v).fault = none ↔ Throughout (fun s => Name.isText s = true) (fun n => isLong n = false) v := by
  constructor
  · intro whole
    exact throughout_of_pieces h 0 [] (write_fault_eq_none.1 whole)
  · intro sound
    cases faulty : (write v).fault with
    | none => rfl
    | some f =>
      obtain rfl := eq_longInteger_of_write (sound.imp (fun _ text => text) fun _ _ => trivial) faulty
      obtain ⟨run, same⟩ := exists_lone_of_write (sound.imp (fun _ _ => trivial) fun _ short => short) faulty
      cases same

/-- What is printed of a value has no carriage return in it. -/
theorem return_not_mem_write (h : Throughout (fun _ => True) (fun _ => True) v) : '\r' ∉ (write v).text := by
  have all : ∀ p ∈ pieces 0 [] v, p.All (· ≠ .scalar '\r') True := by
    apply all_pieces
    · intro c other same
      exact other (CodePoint.scalar.inj same)
    · refine h.imp (fun s _ u _ => ?_) fun _ _ _ => trivial
      exact CodePoint.noConfusion
    · exact fun q hq => absurd hq List.not_mem_nil
  intro mem
  obtain ⟨p, hp, mem⟩ := List.mem_flatMap.1 mem
  have piece := all p ((List.takeWhile_sublist _).subset hp)
  cases p with
  | points ps =>
    obtain ⟨q, hq, same⟩ := List.mem_filterMap.1 mem
    cases q with
    | scalar c =>
      obtain rfl := Option.some.inj same
      exact piece _ hq rfl
    | lone u => cases same
  | longInteger => exact absurd mem List.not_mem_nil

end Sound

end DependencyAudit.Json
