import DependencyAudit.Json.Reader
import DependencyAudit.Json.Writer
import DependencyAudit.Proofs.CodePoint

namespace DependencyAudit

namespace Json

open CodePoint (chars)

section Strings

variable {opening r : Text} {done : List CodePoint}

theorem hexPadded_control : ∀ n < 32, Text.hexPadded 4 n = ['0', '0', Nat.digitChar (n / 16), Nat.digitChar (n % 16)] := by
  decide

theorem unit?_control : ∀ n < 32, unit? '0' '0' (Nat.digitChar (n / 16)) (Nat.digitChar (n % 16)) = some n := by
  decide

theorem stringBody_short {e c : Char} (short : shortEscape? e = some c) (other : e ≠ 'u') :
    stringBody opening done ('\\' :: e :: r) = stringBody opening (.scalar c :: done) r := by
  rw [stringBody]
  · rw [short]
  · intro _ _ _ _ _ _ h _
    exact other h
  · intro h
    exact other h

theorem stringBody_plain {c : Char} (quote : c ≠ '"') (slash : c ≠ '\\') (high : 32 ≤ c.toNat) :
    stringBody opening done (c :: r) = stringBody opening (.scalar c :: done) r := by
  rw [stringBody]
  · rw [if_neg (by omega)]
  · exact quote
  · intro h _
    exact slash h
  · intro _ _ _ _ _ _ h _
    exact slash h
  · intro _ h _
    exact slash h
  · intro _ _ h _
    exact slash h

/-- An escape by four digits is read if something comes after it. -/
theorem stringBody_control {c next : Char} (control : c.toNat < 32) :
    stringBody opening done ('\\' :: 'u' :: Text.hexPadded 4 c.toNat ++ next :: r) =
      stringBody opening (.scalar c :: done) (next :: r) := by
  have unit : ofUnit c.toNat = .scalar c := by
    have high : isHigh c.toNat = false := by simp [isHigh]; omega
    have low : isLow c.toNat = false := by simp [isLow]; omega
    rw [ofUnit, high, low, Char.ofNat_toNat]
    rfl
  rw [hexPadded_control _ control]
  simp only [List.cons_append, List.nil_append]
  rw [stringBody, unit?_control _ control]
  simp only [unit]

theorem stringBody_escapeChar (c next : Char) :
    stringBody opening done (escapeChar c ++ next :: r) = stringBody opening (.scalar c :: done) (next :: r) := by
  rw [escapeChar]
  split
  · rename_i h
    rcases h with rfl | rfl
    · exact stringBody_short rfl (by decide)
    · exact stringBody_short rfl (by decide)
  split
  · rename_i h
    exact h ▸ stringBody_short rfl (by decide)
  split
  · rename_i h
    exact h ▸ stringBody_short rfl (by decide)
  split
  · rename_i h
    exact h ▸ stringBody_short rfl (by decide)
  split
  · rename_i h
    exact h ▸ stringBody_short rfl (by decide)
  split
  · rename_i h
    exact h ▸ stringBody_short rfl (by decide)
  split
  · rename_i control
    exact stringBody_control control
  · rename_i special _ _ _ _ _ control
    rw [not_or] at special
    exact stringBody_plain special.1 special.2 (by omega)

/-- A string between its quotation marks. -/
def quoted (s : Text) : Text := '"' :: s.flatMap escapeChar ++ ['"']

theorem printString_ofText (s : Text) : printString (CodePoint.ofText s) = CodePoint.ofText (quoted s) := by
  have body : (CodePoint.ofText s).flatMap escapePoint = CodePoint.ofText (s.flatMap escapeChar) := by
    rw [CodePoint.ofText, CodePoint.ofText, List.flatMap_map, List.map_flatMap]
    rfl
  rw [printString, body, quoted, CodePoint.ofText, CodePoint.ofText, List.cons_append, List.cons_append, List.map_cons,
    List.map_append]
  rfl

theorem chars_printString (s : Text) : chars (printString (CodePoint.ofText s)) = quoted s := by
  rw [printString_ofText, CodePoint.chars_ofText]

theorem joinPairs_ofText (s : Text) : joinPairs (CodePoint.ofText s) = CodePoint.ofText s := by
  induction s with
  | nil => rfl
  | cons c s ih =>
    rw [CodePoint.ofText, List.map_cons, joinPairs, List.foldr_cons]
    exact congrArg (CodePoint.scalar c :: ·) ih

theorem stringBody_flatMap_escapeChar (s : Text) :
    stringBody opening done (s.flatMap escapeChar ++ '"' :: r) =
      .ok (joinPairs (done.reverse ++ CodePoint.ofText s), r) := by
  induction s generalizing done with
  | nil =>
    rw [List.flatMap_nil, List.nil_append, stringBody, CodePoint.ofText, List.map_nil, List.append_nil]
  | cons c s ih =>
    -- There is the closing mark at least behind an escape.
    obtain ⟨next, more, behind⟩ : ∃ next more, s.flatMap escapeChar ++ '"' :: r = next :: more := by
      cases s.flatMap escapeChar with
      | nil => exact ⟨_, _, rfl⟩
      | cons d t => exact ⟨_, _, rfl⟩
    rw [List.flatMap_cons, List.append_assoc, behind, stringBody_escapeChar, ← behind, ih, List.reverse_cons,
      List.append_assoc]
    rfl

theorem stringBody_quoted (s : Text) :
    stringBody opening [] (s.flatMap escapeChar ++ '"' :: r) = .ok (CodePoint.ofText s, r) := by
  rw [stringBody_flatMap_escapeChar, List.reverse_nil, List.nil_append, joinPairs_ofText]

end Strings

section Integers

theorem isDigit_eq (c : Char) : isDigit c = c.isDigit := rfl

theorem decimal_isDigit {n : Nat} : ∀ c ∈ Text.decimal n, isDigit c = true := by
  intro c hc
  rw [isDigit_eq]
  exact Nat.isDigit_of_mem_toDigits (by decide) (by decide) hc

theorem decimal_ne_nil (n : Nat) : Text.decimal n ≠ [] := Nat.toDigits_ne_nil

/-- Only zero itself is written with a zero in front. -/
theorem head?_decimal (n : Nat) (h : (Text.decimal n).head? = some '0') : n = 0 := by
  induction n using Nat.strongRecOn with
  | ind n ih =>
    by_cases small : n < 10
    · rw [Text.decimal, Nat.toDigits_of_lt_base small] at h
      simpa using h
    · rw [Text.decimal, Nat.toDigits_of_base_le (by decide) (by omega),
        List.head?_append_of_ne_nil _ Nat.toDigits_ne_nil] at h
      have zero := ih (n / 10) (by omega) h
      omega

theorem naturalOf_decimal (n : Nat) : naturalOf (Text.decimal n) = n := by
  have fold : naturalOf = fun digits => Nat.ofDigitChars 10 digits 0 := by
    funext digits
    rw [naturalOf, Nat.ofDigitChars_eq_foldl]
    congr 1
    funext sum c
    rw [Nat.mul_comm]
    rfl
  rw [fold]
  exact Nat.ofDigitChars_ten_toDigits

/-- What follows a value that is printed: the next item or member, the end of its array or object on a new line, or
nothing. -/
def Ends (rest : Text) : Prop := ∀ c ∈ rest.head?, c = ',' ∨ c = '\n'

variable {rest : Text} (ends : Ends rest)

include ends

theorem takeWhile_isDigit_decimal (n : Nat) : (Text.decimal n ++ rest).takeWhile isDigit = Text.decimal n := by
  have stops : rest.takeWhile isDigit = [] := by
    cases rest with
    | nil => rfl
    | cons c r =>
      rcases ends c rfl with rfl | rfl
      · rfl
      · rfl
  rw [List.takeWhile_append_of_pos fun c hc => decimal_isDigit c hc, stops, List.append_nil]

theorem wholeDigits_decimal (n : Nat) : wholeDigits (Text.decimal n ++ rest) = Text.decimal n := by
  obtain ⟨d, ds, split⟩ := List.exists_cons_of_ne_nil (decimal_ne_nil n)
  by_cases zero : n = 0
  · subst zero
    rfl
  · have lead : d ≠ '0' := by
      rintro rfl
      exact zero (head?_decimal n (by rw [split]; rfl))
    have digits := takeWhile_isDigit_decimal ends n
    rw [split] at digits ⊢
    rw [List.cons_append, wholeDigits]
    · exact digits
    · rintro r h
      exact lead (List.cons.inj h).1

theorem unsigned_decimal {n : Nat} (start : Text) (negative : Bool) (short : (Text.decimal n).length ≤ maxDigits) :
    unsigned start negative (Text.decimal n ++ rest) =
      .ok (.integer (if negative then -n else n), rest) := by
  have none_behind : fraction rest = [] ∧ exponent rest = [] := by
    cases rest with
    | nil => exact ⟨rfl, rfl⟩
    | cons c r =>
      rcases ends c rfl with rfl | rfl
      · exact ⟨rfl, rfl⟩
      · exact ⟨rfl, rfl⟩
  rw [unsigned, wholeDigits_decimal ends]
  split
  · rename_i empty
    exact absurd empty (decimal_ne_nil n)
  · simp only [List.drop_left, none_behind.1, List.length_nil, List.drop_zero, none_behind.2, and_self, if_true,
      naturalOf_decimal]
    rw [if_neg (by omega)]
    rfl

omit ends in
/-- No digits begin a word, with or without a sign. -/
theorem word?_of_isDigit {d : Char} (hd : isDigit d = true) (r : Text) :
    word? (d :: r) = none ∧ word? ('-' :: d :: r) = none := by
  have other (c : Char) (hc : isDigit c = false) : c ≠ d := by
    rintro rfl
    rw [hd] at hc
    cases hc
  constructor
  · simp [word?, Text.afterWord, other 'n' rfl, other 't' rfl, other 'f' rfl, other 'N' rfl, other 'I' rfl,
      other '-' rfl]
  · simp [word?, Text.afterWord, other 'I' rfl]

theorem scalar_decimal {n : Nat} (short : (Text.decimal n).length ≤ maxDigits) :
    scalar (Text.decimal n ++ rest) = .ok (.integer n, rest) ∧
      scalar ('-' :: (Text.decimal n ++ rest)) = .ok (.integer (-n), rest) := by
  have read := fun start negative => unsigned_decimal ends start negative short
  obtain ⟨d, ds, split⟩ := List.exists_cons_of_ne_nil (decimal_ne_nil n)
  have hd : isDigit d = true := decimal_isDigit d (by rw [split]; exact List.mem_cons_self)
  obtain ⟨word, signed⟩ := word?_of_isDigit hd (ds ++ rest)
  rw [split, List.cons_append] at read ⊢
  constructor
  · have sign : d ≠ '-' := by
      rintro rfl
      cases hd
    unfold scalar
    rw [word]
    split
    · rename_i found
      cases found
    · split
      · rename_i same
        exact absurd (List.cons.inj same).1 sign
      · exact read _ false
  · unfold scalar
    rw [signed]
    exact read _ true

theorem scalar_signed {n : Int} (short : isLong n = false) :
    scalar (Text.signed n ++ rest) = .ok (.integer n, rest) := by
  have bound : (Text.decimal n.natAbs).length ≤ maxDigits := by simpa [isLong] using short
  cases n with
  | ofNat n => exact (scalar_decimal ends bound).1
  | negSucc n => exact (scalar_decimal ends bound).2

end Integers

end Json

end DependencyAudit
