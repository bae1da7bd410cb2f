import DependencyAudit.Proofs.Json.Keyed
import DependencyAudit.Proofs.Json.Pieces

namespace DependencyAudit.Json

open CodePoint (chars)

theorem chars_newLine (level : Nat) : chars (newLine level) = '\n' :: List.replicate (2 * level) ' ' :=
  CodePoint.chars_ofText _

theorem skipGap_newLine (level : Nat) (t : Text) : skipGap (chars (newLine level) ++ t) = skipGap t := by
  rw [chars_newLine, List.cons_append, skipGap, List.dropWhile_cons_of_pos rfl, skipGap]
  exact List.dropWhile_append_of_pos fun c hc => by rw [List.eq_of_mem_replicate hc]; rfl

/-- The characters of a printed value. -/
def text (level : Nat) (v : Json) : Text := (pieces level [] v).flatMap Piece.text

def itemsText (level : Nat) (vs : List Json) : Text := (itemPieces level vs).flatMap Piece.text

def membersText (level : Nat) (ms : List (List CodePoint × Json)) : Text := (memberPieces level ms).flatMap Piece.text

section Printed

variable {level : Nat}

theorem text_null : text level .null = "null".toList := rfl

theorem text_true : text level (.bool true) = "true".toList := rfl

theorem text_false : text level (.bool false) = "false".toList := rfl

theorem text_integer {n : Int} (short : isLong n = false) : text level (.integer n) = Text.signed n := by
  simp [text, pieces, short, Piece.text]

theorem text_string (s : Text) : text level (.ofText s) = quoted s := by
  simp [text, Json.ofText, pieces, Piece.text, chars_printString]

theorem text_array_nil : text level (.array []) = "[]".toList := rfl

/-- A lead stands in front of whatever is printed behind it. -/
theorem text_lead {v : Json} (h : text level v ≠ []) (lead : List CodePoint) :
    (pieces level lead v).flatMap Piece.text = chars lead ++ text level v := by
  cases v with
  | integer n =>
    rw [text, pieces] at h
    split at h
    · exact absurd rfl h
    · rename_i short
      simp [text, pieces, short, Piece.text]
  | bool b => cases b <;> simp [text, pieces, Piece.text]
  | null | real | string => simp [text, pieces, Piece.text]
  | array vs => cases vs <;> simp [text, pieces, Piece.text]
  | object ms => cases ms <;> simp [text, pieces, Piece.text]

theorem text_array_cons {v : Json} (h : text (level + 1) v ≠ []) (vs : List Json) :
    text level (.array (v :: vs)) = '[' :: (chars (newLine (level + 1)) ++ (text (level + 1) v ++
      (itemsText (level + 1) vs ++ (chars (newLine level) ++ [']'])))) := by
  rw [text, pieces]
  simp [Piece.text, text_lead h, mark, itemsText]

theorem itemsText_cons {v : Json} (h : text level v ≠ []) (vs : List Json) :
    itemsText level (v :: vs) = ',' :: (chars (newLine level) ++ (text level v ++ itemsText level vs)) := by
  simp [itemsText, itemPieces, text_lead h, mark]

theorem text_object_nil : text level (.object []) = "\x7b\x7d".toList := rfl

theorem text_object_cons (name : Text) (v : Json) (ms : List (List CodePoint × Json)) :
    text level (.object ((CodePoint.ofText name, v) :: ms)) = '\x7b' :: (chars (newLine (level + 1)) ++
      (quoted name ++ (": ".toList ++ (text (level + 1) v ++ (membersText (level + 1) ms ++
        (chars (newLine level) ++ ['\x7d'])))))) := by
  simp [text, pieces, Piece.text, mark, membersText, chars_printString]

theorem membersText_cons (name : Text) (v : Json) (ms : List (List CodePoint × Json)) :
    membersText level ((CodePoint.ofText name, v) :: ms) = ',' :: (chars (newLine level) ++ (quoted name ++
      (": ".toList ++ (text level v ++ membersText level ms)))) := by
  simp [membersText, memberPieces, Piece.text, mark, text, chars_printString]

end Printed

/-- A text that is read as a value wherever it stands, at a depth of nesting. -/
structure Reads (depth : Nat) (t : Text) (v : Json) : Prop where
  opens : ∃ c r, t = c :: r ∧ isGap c = false ∧ c ∉ [']', '\ufeff']
  value : ∀ fuel rest, t.length ≤ fuel → Ends rest → Json.value fuel depth (t ++ rest) = .ok (v, rest)

/-- Values that are read back as they are printed: nested so deep at most, with distinct names that are texts, and with
no number of double precision. Whether integers are printed is not said. -/
inductive Readable : Nat → Json → Prop
  | null {depth : Nat} : Readable depth .null
  | bool {depth : Nat} {b : Bool} : Readable depth (.bool b)
  | integer {depth : Nat} {n : Int} : Readable depth (.integer n)
  | string {depth : Nat} {s : List CodePoint} (text : Name.isText s = true) : Readable depth (.string s)
  | array {depth : Nat} {vs : List Json} (items : ∀ v ∈ vs, Readable depth v) : Readable (depth + 1) (.array vs)
  | object {depth : Nat} {ms : List (List CodePoint × Json)} (names : (ms.map (·.1)).Nodup)
      (texts : ∀ m ∈ ms, Name.isText m.1 = true) (values : ∀ m ∈ ms, Readable depth m.2) :
      Readable (depth + 1) (.object ms)

theorem Reads.skipGap {depth : Nat} {t r : Text} {v : Json} (h : Reads depth t v) : skipGap (t ++ r) = t ++ r := by
  obtain ⟨c, rest, rfl, solid, -⟩ := h.opens
  rw [List.cons_append, Json.skipGap, List.dropWhile_cons_of_neg (by simp [solid])]

theorem Reads.ne_nil {depth : Nat} {t : Text} {v : Json} (h : Reads depth t v) : t ≠ [] := by
  obtain ⟨c, r, rfl, -⟩ := h.opens
  exact List.cons_ne_nil c r

theorem value_eq_scalar {t : Text} (fuel depth : Nat) (h : ∀ c ∈ t.head?, c ≠ '"' ∧ c ≠ '[' ∧ c ≠ '\x7b') :
    value (fuel + 1) depth t = scalar t := by
  unfold value
  split
  · exact absurd rfl (h _ rfl).1
  · exact absurd rfl (h _ rfl).2.1
  · exact absurd rfl (h _ rfl).2.2
  · rfl

theorem readable_string {depth : Nat} {s : List CodePoint} :
    Readable depth (.string s) ↔ Name.isText s = true := by
  constructor
  · intro h
    cases h with
    | string text => exact text
  · exact .string

/-- The strings in a readable value are text. -/
theorem Readable.throughout {depth : Nat} {v : Json} (h : Readable depth v) :
    Throughout (fun s => Name.isText s = true) (fun _ => True) v := by
  induction h with
  | null => exact .null
  | bool => exact .bool
  | integer => exact .integer trivial
  | string text => exact .string text
  | array _ ih => exact .array ih
  | object _ texts _ ih => exact .object texts ih

section Values

variable {depth level : Nat}

/-- A text that is no string, array or object is read as a scalar. -/
theorem Reads.of_scalar {t : Text} {v : Json}
    (opens : ∃ c r, t = c :: r ∧ isGap c = false ∧ c ∉ [']', '\ufeff', '"', '[', '\x7b'])
    (read : ∀ rest, Ends rest → scalar (t ++ rest) = .ok (v, rest)) : Reads depth t v where
  opens := by
    obtain ⟨c, r, split, solid, other⟩ := opens
    exact ⟨c, r, split, solid, fun h => other (List.mem_append_left ['"', '[', '\x7b'] h)⟩
  value fuel rest enough ends := by
    obtain ⟨c, r, rfl, -, other⟩ := opens
    cases fuel with
    | zero => exact absurd enough (by simp)
    | succ fuel =>
      rw [value_eq_scalar]
      · exact read rest ends
      · intro d hd
        obtain rfl : c = d := Option.some.inj hd
        simp only [List.mem_cons, not_or] at other
        exact ⟨other.2.2.1, other.2.2.2.1, other.2.2.2.2.1⟩

theorem reads_null : Reads depth (text level .null) .null := by
  rw [text_null]
  exact .of_scalar ⟨_, _, rfl, by decide, by decide⟩ fun rest _ => rfl

theorem reads_bool (b : Bool) : Reads depth (text level (.bool b)) (.bool b) := by
  cases b with
  | true =>
    rw [text_true]
    exact .of_scalar ⟨_, _, rfl, by decide, by decide⟩ fun rest _ => rfl
  | false =>
    rw [text_false]
    exact .of_scalar ⟨_, _, rfl, by decide, by decide⟩ fun rest _ => rfl

theorem reads_integer {n : Int} (short : isLong n = false) : Reads depth (text level (.integer n)) (.integer n) := by
  rw [text_integer short]
  refine .of_scalar ?_ fun rest ends => scalar_signed ends short
  cases n with
  | ofNat n =>
    obtain ⟨d, ds, split⟩ := List.exists_cons_of_ne_nil (decimal_ne_nil n)
    have hd : isDigit d = true := decimal_isDigit d (by rw [split]; exact List.mem_cons_self)
    refine ⟨d, ds, split, ?_, ?_⟩
    · by_contra gap
      simp only [isGap, Bool.not_eq_false, Bool.or_eq_true, decide_eq_true_eq] at gap
      rcases gap with ((rfl | rfl) | rfl) | rfl
      all_goals cases hd
    · intro special
      simp only [List.mem_cons, List.not_mem_nil, or_false] at special
      rcases special with rfl | rfl | rfl | rfl | rfl
      all_goals cases hd
  | negSucc n => exact ⟨'-', Text.decimal (n + 1), rfl, by decide, by decide⟩

theorem reads_string (s : Text) : Reads depth (text level (.ofText s)) (.ofText s) where
  opens := by
    rw [text_string]
    exact ⟨_, _, rfl, rfl, by decide⟩
  value fuel rest enough _ := by
    rw [text_string, quoted] at enough ⊢
    cases fuel with
    | zero => exact absurd enough (by simp)
    | succ fuel =>
      simp only [List.cons_append, List.append_assoc, List.nil_append]
      rw [value, stringBody_quoted]
      rfl

/-- The items of an array are read up to its end, one after the other. -/
theorem items_itemsText (depth level outer : Nat) (rest : Text) {v : Json} {vs : List Json} (done : List Json)
    (fuel : Nat) (each : ∀ u ∈ v :: vs, Reads depth (text level u) u)
    (enough : (text level v).length + (itemsText level vs).length < fuel) :
    items fuel depth done (text level v ++ (itemsText level vs ++ (chars (newLine outer) ++ ']' :: rest))) =
      .ok (done.reverse ++ v :: vs, rest) := by
  induction vs generalizing v done fuel with
  | nil =>
    cases fuel with
    | zero => omega
    | succ fuel =>
      have ends : Ends (itemsText level [] ++ (chars (newLine outer) ++ ']' :: rest)) := by
        rw [chars_newLine]
        intro c hc
        exact .inr (Option.some.inj hc).symm
      have read := (each v List.mem_cons_self).value fuel _ (by omega) ends
      have gap : skipGap (itemsText level [] ++ (chars (newLine outer) ++ ']' :: rest)) = ']' :: rest :=
        skipGap_newLine outer _
      rw [items, read]
      simp only [gap, List.reverse_cons]
  | cons u us ih =>
    have second : Reads depth (text level u) u := each u (by simp)
    have length : (itemsText level (u :: us)).length =
        (chars (newLine level)).length + (text level u).length + (itemsText level us).length + 1 := by
      rw [itemsText_cons second.ne_nil]
      simp only [List.length_cons, List.length_append]
      omega
    cases fuel with
    | zero => omega
    | succ fuel =>
      have split : itemsText level (u :: us) ++ (chars (newLine outer) ++ ']' :: rest) =
          ',' :: (chars (newLine level) ++ (text level u ++ (itemsText level us ++ (chars (newLine outer) ++
            ']' :: rest)))) := by
        simp [itemsText_cons second.ne_nil]
      have ends : Ends (itemsText level (u :: us) ++ (chars (newLine outer) ++ ']' :: rest)) := by
        rw [split]
        intro c hc
        exact .inl (Option.some.inj hc).symm
      have read := (each v List.mem_cons_self).value fuel _ (by omega) ends
      have gap : skipGap (',' :: (chars (newLine level) ++ (text level u ++ (itemsText level us ++
          (chars (newLine outer) ++ ']' :: rest))))) = ',' :: (chars (newLine level) ++ (text level u ++
          (itemsText level us ++ (chars (newLine outer) ++ ']' :: rest)))) := rfl
      have later := ih (v :: done) fuel (fun w hw => each w (List.mem_cons_of_mem v hw)) (by omega)
      rw [items, read]
      simp only [split, gap, skipGap_newLine, second.skipGap, later, List.reverse_cons, List.append_assoc,
        List.singleton_append]

theorem value_array {r : Text} (fuel depth : Nat) (h : (skipGap r).head? ≠ some ']') :
    value (fuel + 1) (depth + 1) ('[' :: r) =
      (items fuel depth [] (skipGap r)).map fun (xs, rest) => (.array xs, rest) := by
  simp only [value]
  split
  · rename_i none_left
    cases none_left
  · rename_i closed
    exact absurd (congrArg List.head? closed) h
  · rename_i same _
    rw [Nat.add_right_cancel same]

theorem value_object {r : Text} (fuel depth : Nat) (h : (skipGap r).head? ≠ some '\x7d') :
    value (fuel + 1) (depth + 1) ('\x7b' :: r) =
      (members fuel depth [] (skipGap r)).map fun (ms, rest) => (.object ms, rest) := by
  simp only [value]
  split
  · rename_i none_left
    cases none_left
  · rename_i closed
    exact absurd (congrArg List.head? closed) h
  · rename_i same _
    rw [Nat.add_right_cancel same]

theorem reads_array {vs : List Json} (each : ∀ u ∈ vs, Reads depth (text (level + 1) u) u) :
    Reads (depth + 1) (text level (.array vs)) (.array vs) := by
  cases vs with
  | nil =>
    rw [text_array_nil]
    refine ⟨⟨_, _, rfl, by decide, by decide⟩, ?_⟩
    intro fuel rest enough _
    cases fuel with
    | zero => exact absurd enough (by decide)
    | succ fuel => rfl
  | cons v vs =>
    rw [text_array_cons (each v List.mem_cons_self).ne_nil]
    refine ⟨⟨_, _, rfl, by decide, by decide⟩, ?_⟩
    intro fuel rest enough _
    cases fuel with
    | zero => exact absurd enough (by simp)
    | succ fuel =>
      simp only [List.length_cons, List.length_append] at enough
      have read := items_itemsText depth (level + 1) level rest [] fuel each (by omega)
      have first := each v List.mem_cons_self
      have gap := first.skipGap (r := itemsText (level + 1) vs ++ (chars (newLine level) ++ ']' :: rest))
      obtain ⟨c, r, split, -, opens⟩ := first.opens
      simp only [List.cons_append, List.append_assoc, List.nil_append]
      rw [value_array, skipGap_newLine, gap, read]
      · rfl
      · rw [skipGap_newLine, gap, split]
        intro closed
        exact opens (by simp [Option.some.inj closed])

section Member

variable {name t r rest : Text} {v : Json} {done : List (List CodePoint × Json)} {fuel : Nat} (h : Reads depth t v)
  (enough : t.length ≤ fuel) (ends : Ends r)

include h enough ends

theorem members_next (next : skipGap r = ',' :: rest) :
    members (fuel + 1) depth done (quoted name ++ (": ".toList ++ (t ++ r))) =
      members fuel depth (setMember (CodePoint.ofText name) v done) (skipGap rest) := by
  have colon : skipGap (": ".toList ++ (t ++ r)) = ':' :: ' ' :: (t ++ r) := rfl
  have blank : skipGap (' ' :: (t ++ r)) = t ++ r := h.skipGap
  simp only [quoted, List.cons_append, List.append_assoc, List.nil_append]
  rw [members, stringBody_quoted]
  simp only [colon, blank, h.value fuel r enough ends, next]

theorem members_last (last : skipGap r = '\x7d' :: rest) :
    members (fuel + 1) depth done (quoted name ++ (": ".toList ++ (t ++ r))) =
      .ok (setMember (CodePoint.ofText name) v done, rest) := by
  have colon : skipGap (": ".toList ++ (t ++ r)) = ':' :: ' ' :: (t ++ r) := rfl
  have blank : skipGap (' ' :: (t ++ r)) = t ++ r := h.skipGap
  simp only [quoted, List.cons_append, List.append_assoc, List.nil_append]
  rw [members, stringBody_quoted]
  simp only [colon, blank, h.value fuel r enough ends, last]

end Member

/-- The members of an object are read up to its end; a name that is new comes last. -/
theorem members_membersText (depth level outer : Nat) (rest : Text) {name : Text} {v : Json}
    {ms : List (List CodePoint × Json)} (done : List (List CodePoint × Json)) (fuel : Nat)
    (each : ∀ m ∈ (CodePoint.ofText name, v) :: ms, Reads depth (text level m.2) m.2)
    (texts : ∀ m ∈ ms, Name.isText m.1 = true)
    (distinct : ((done ++ (CodePoint.ofText name, v) :: ms).map (·.1)).Nodup)
    (enough : (text level v).length + (membersText level ms).length < fuel) :
    members fuel depth done (quoted name ++ (": ".toList ++ (text level v ++ (membersText level ms ++
        (chars (newLine outer) ++ '\x7d' :: rest))))) = .ok (done ++ (CodePoint.ofText name, v) :: ms, rest) := by
  have new : CodePoint.ofText name ∉ done.map (·.1) := by
    rw [List.map_append, List.nodup_append] at distinct
    intro known
    exact distinct.2.2 _ known _ (by simp) rfl
  induction ms generalizing name v done fuel with
  | nil =>
    have first : Reads depth (text level v) v := each _ List.mem_cons_self
    cases fuel with
    | zero => omega
    | succ fuel =>
      have ends : Ends (membersText level [] ++ (chars (newLine outer) ++ '\x7d' :: rest)) := by
        rw [chars_newLine]
        intro c hc
        exact .inr (Option.some.inj hc).symm
      have gap : skipGap (membersText level [] ++ (chars (newLine outer) ++ '\x7d' :: rest)) = '\x7d' :: rest :=
        skipGap_newLine outer _
      rw [members_last first (by omega) ends gap, setMember_of_not_mem new]
  | cons m ms ih =>
    obtain ⟨n, u⟩ := m
    obtain ⟨next, rfl⟩ : ∃ s, n = CodePoint.ofText s :=
      Name.isText_iff_exists.1 (texts _ List.mem_cons_self)
    have first : Reads depth (text level v) v := each _ List.mem_cons_self
    cases fuel with
    | zero => omega
    | succ fuel =>
      rw [membersText_cons] at enough ⊢
      simp only [List.length_cons, List.length_append] at enough
      simp only [List.cons_append, List.append_assoc]
      have ends (t : Text) : Ends (',' :: t) := fun c hc => .inl (Option.some.inj hc).symm
      have opening (t : Text) : skipGap (quoted next ++ t) = quoted next ++ t := rfl
      have distinct' : ((done ++ [(CodePoint.ofText name, v)] ++ (CodePoint.ofText next, u) :: ms).map (·.1)).Nodup := by
        rw [List.append_assoc]
        exact distinct
      have new' : CodePoint.ofText next ∉ (done ++ [(CodePoint.ofText name, v)]).map (·.1) := by
        rw [List.map_append, List.nodup_append] at distinct'
        intro known
        exact distinct'.2.2 _ known _ (by simp) rfl
      have later := ih (done ++ [(CodePoint.ofText name, v)]) fuel
        (fun w hw => each w (List.mem_cons_of_mem _ hw)) (fun w hw => texts w (List.mem_cons_of_mem _ hw)) distinct'
        (by omega) new'
      rw [members_next first (by omega) (ends _) rfl, setMember_of_not_mem new, skipGap_newLine, opening, later,
        List.append_assoc, List.singleton_append]

theorem reads_object {ms : List (List CodePoint × Json)} (each : ∀ m ∈ ms, Reads depth (text (level + 1) m.2) m.2)
    (texts : ∀ m ∈ ms, Name.isText m.1 = true) (names : (ms.map (·.1)).Nodup) :
    Reads (depth + 1) (text level (.object ms)) (.object ms) := by
  cases ms with
  | nil =>
    rw [text_object_nil]
    refine ⟨⟨_, _, rfl, by decide, by decide⟩, ?_⟩
    intro fuel rest enough _
    cases fuel with
    | zero => exact absurd enough (by decide)
    | succ fuel => rfl
  | cons m ms =>
    obtain ⟨n, v⟩ := m
    obtain ⟨name, rfl⟩ : ∃ s, n = CodePoint.ofText s :=
      Name.isText_iff_exists.1 (texts _ List.mem_cons_self)
    rw [text_object_cons]
    refine ⟨⟨_, _, rfl, by decide, by decide⟩, ?_⟩
    intro fuel rest enough _
    cases fuel with
    | zero => exact absurd enough (by simp)
    | succ fuel =>
      simp only [List.length_cons, List.length_append] at enough
      have read := members_membersText depth (level + 1) level rest [] fuel each
        (fun m hm => texts m (List.mem_cons_of_mem _ hm)) names (by omega)
      have opening (t : Text) : skipGap (quoted name ++ t) = quoted name ++ t := rfl
      simp only [List.cons_append, List.append_assoc, List.nil_append]
      rw [value_object, skipGap_newLine, opening, read]
      · rfl
      · rw [skipGap_newLine, opening]
        exact fun closed => absurd (Option.some.inj closed) (by decide)

theorem reads_of_readable {v : Json} (h : Readable depth v)
    (short : Throughout (fun _ => True) (fun n => isLong n = false) v) (level : Nat) : Reads depth (text level v) v := by
  induction h generalizing level with
  | null => exact reads_null
  | bool => exact reads_bool _
  | integer =>
    cases short with
    | integer short => exact reads_integer short
  | string text =>
    obtain ⟨s, rfl⟩ := Name.isText_iff_exists.1 text
    exact reads_string s
  | array _ ih =>
    cases short with
    | array items => exact reads_array fun v hv => ih v hv (items v hv) _
  | object names texts _ ih =>
    cases short with
    | object _ values => exact reads_object (fun m hm => ih m hm (values m hm) _) texts names

end Values

theorem text_of_write {v : Json} (whole : (write v).fault = none) : (write v).text = text 0 v := by
  have all : (pieces 0 [] v).takeWhile (·.fault?.isNone) = pieces 0 [] v := by
    rw [List.takeWhile_eq_self_iff]
    intro p hp
    exact Option.isNone_iff_eq_none.2 (write_fault_eq_none.1 whole p hp)
  rw [write, text, all]

/-- A readable value comes back from its printed form. -/
theorem read?_of_write {depth : Nat} {v : Json} (h : Readable depth v) (whole : (write v).fault = none) :
    read? depth (write v).text = some v := by
  have sound := (write_fault_eq_none_iff (h.throughout.imp (fun _ _ => trivial) fun _ _ => trivial)).1 whole
  have reads := reads_of_readable h (sound.imp (fun _ _ => trivial) fun _ short => short) 0
  obtain ⟨c, r, split, -, other⟩ := reads.opens
  have ordered : (text 0 v).head? ≠ some '\ufeff' := by
    rw [split]
    intro ordered
    exact other (by simp [Option.some.inj ordered])
  have value := reads.value (2 * (text 0 v).length + 2) [] (by omega) (by simp [Ends])
  have gap := reads.skipGap (r := [])
  rw [List.append_nil] at value gap
  rw [text_of_write whole, read?, read, readAll, if_neg ordered, gap, value]
  rfl

end DependencyAudit.Json
