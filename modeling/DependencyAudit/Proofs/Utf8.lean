import DependencyAudit.FileSystem.Basic

namespace DependencyAudit

namespace Utf8

section Reading

variable {position : Nat} {done : Text} {b : UInt8} {rest : List UInt8} {p : Pending}

theorem decodeFrom_single (h : b.toNat < 0x80) :
    decodeFrom position none done (b :: rest) = decodeFrom (position + 1) none (Char.ofNat b.toNat :: done) rest := by
  rw [decodeFrom, if_pos h]

theorem decodeFrom_lead (h : 0x80 ≤ b.toNat) (announced : announce position b = some p) :
    decodeFrom position none done (b :: rest) = decodeFrom (position + 1) (some p) done rest := by
  rw [decodeFrom, if_neg (by omega), announced]

theorem decodeFrom_more (bounds : p.low ≤ b.toNat ∧ b.toNat ≤ p.high) (due : p.due ≠ 1) :
    decodeFrom position (some p) done (b :: rest) = decodeFrom (position + 1)
      (some ⟨p.lead, p.start, p.span + 1, p.due - 1, 0x80, 0xBF, p.value * 64 + (b.toNat - 0x80)⟩) done rest := by
  rw [decodeFrom, if_pos bounds, if_neg due]

theorem decodeFrom_last (bounds : p.low ≤ b.toNat ∧ b.toNat ≤ p.high) (due : p.due = 1) :
    decodeFrom position (some p) done (b :: rest) =
      decodeFrom (position + 1) none (Char.ofNat (p.value * 64 + (b.toNat - 0x80)) :: done) rest := by
  rw [decodeFrom, if_pos bounds, if_pos due]

end Reading

section Leads

variable {b : UInt8} {v : Nat}

theorem announce_two (position : Nat) (hb : b.toNat = v / 64 + 0xC0) (low : 0x80 ≤ v) (high : v ≤ 0x7FF) :
    announce position b = some ⟨b, position, 1, 1, 0x80, 0xBF, v / 64⟩ := by
  simp only [announce, hb]
  rw [if_pos (by omega), Nat.add_sub_cancel]

/-- The bounds that the lead byte sets hold of the second byte: what is too short or a surrogate is none of theirs. -/
theorem announce_three (position : Nat) (hb : b.toNat = v / 4096 + 0xE0) (low : 0x800 ≤ v) (high : v ≤ 0xFFFF)
    (valid : v < 0xD800 ∨ 0xDFFF < v) :
    ∃ least most, announce position b = some ⟨b, position, 1, 2, least, most, v / 4096⟩ ∧
      least ≤ v / 64 % 64 + 0x80 ∧ v / 64 % 64 + 0x80 ≤ most := by
  simp only [announce, hb]
  rw [if_neg (by omega)]
  by_cases first : v / 4096 = 0
  · refine ⟨0xA0, 0xBF, ?_, by omega, by omega⟩
    rw [if_pos (by omega), first]
  by_cases surrogate : v / 4096 = 0xD
  · refine ⟨0x80, 0x9F, ?_, by omega, by omega⟩
    rw [if_neg (by omega), if_pos (by omega), surrogate]
  · refine ⟨0x80, 0xBF, ?_, by omega, by omega⟩
    rw [if_neg (by omega), if_neg (by omega), if_pos (by omega), Nat.add_sub_cancel]

theorem announce_four (position : Nat) (hb : b.toNat = v / 262144 + 0xF0) (low : 0x10000 ≤ v) (high : v < 0x110000) :
    ∃ least most, announce position b = some ⟨b, position, 1, 3, least, most, v / 262144⟩ ∧
      least ≤ v / 4096 % 64 + 0x80 ∧ v / 4096 % 64 + 0x80 ≤ most := by
  simp only [announce, hb]
  rw [if_neg (by omega), if_neg (by omega), if_neg (by omega), if_neg (by omega)]
  by_cases first : v / 262144 = 0
  · refine ⟨0x90, 0xBF, ?_, by omega, by omega⟩
    rw [if_pos (by omega), first]
  by_cases last : v / 262144 = 4
  · refine ⟨0x80, 0x8F, ?_, by omega, by omega⟩
    rw [if_neg (by omega), if_neg (by omega), if_pos (by omega), last]
  · refine ⟨0x80, 0xBF, ?_, by omega, by omega⟩
    rw [if_neg (by omega), if_pos (by omega), Nat.add_sub_cancel]

end Leads

section Characters

variable {v : Nat} (position : Nat) (done : Text) (rest : List UInt8)

theorem toNat_byte {n : Nat} (h : n < 256) : (UInt8.ofNat n).toNat = n := by
  rw [UInt8.toNat_ofNat']
  exact Nat.mod_eq_of_lt h

theorem decodeFrom_one (high : v ≤ 0x7F) :
    decodeFrom position none done (UInt8.ofNat v :: rest) =
      decodeFrom (position + 1) none (Char.ofNat v :: done) rest := by
  have byte : (UInt8.ofNat v).toNat = v := toNat_byte (by omega)
  rw [decodeFrom_single (by omega), byte]

theorem decodeFrom_two (low : 0x80 ≤ v) (high : v ≤ 0x7FF) :
    decodeFrom position none done (UInt8.ofNat (v / 64 % 0x20 + 0xC0) :: UInt8.ofNat (v % 0x40 + 0x80) :: rest) =
      decodeFrom (position + 2) none (Char.ofNat v :: done) rest := by
  have lead : (UInt8.ofNat (v / 64 % 0x20 + 0xC0)).toNat = v / 64 + 0xC0 := by
    rw [toNat_byte (by omega)]
    omega
  have second : (UInt8.ofNat (v % 0x40 + 0x80)).toNat = v % 64 + 0x80 := toNat_byte (by omega)
  have value : v / 64 * 64 + (v % 64 + 0x80 - 0x80) = v := by omega
  rw [decodeFrom_lead (by omega) (announce_two position lead low high), decodeFrom_last _ rfl]
  · simp only [second, value]
  · simp only [second]
    omega

theorem decodeFrom_three (low : 0x800 ≤ v) (high : v ≤ 0xFFFF) (valid : v < 0xD800 ∨ 0xDFFF < v) :
    decodeFrom position none done (UInt8.ofNat (v / 4096 % 0x10 + 0xE0) :: UInt8.ofNat (v / 64 % 0x40 + 0x80) ::
      UInt8.ofNat (v % 0x40 + 0x80) :: rest) = decodeFrom (position + 3) none (Char.ofNat v :: done) rest := by
  have lead : (UInt8.ofNat (v / 4096 % 0x10 + 0xE0)).toNat = v / 4096 + 0xE0 := by
    rw [toNat_byte (by omega)]
    omega
  have second : (UInt8.ofNat (v / 64 % 0x40 + 0x80)).toNat = v / 64 % 64 + 0x80 := toNat_byte (by omega)
  have third : (UInt8.ofNat (v % 0x40 + 0x80)).toNat = v % 64 + 0x80 := toNat_byte (by omega)
  have value : (v / 4096 * 64 + (v / 64 % 64 + 0x80 - 0x80)) * 64 + (v % 64 + 0x80 - 0x80) = v := by omega
  obtain ⟨least, most, announced, bounds⟩ := announce_three position lead low high valid
  rw [decodeFrom_lead (by omega) announced, decodeFrom_more _ (by simp), decodeFrom_last _ rfl]
  · simp only [second, third, value]
  · simp only [third]
    omega
  · simp only [second]
    exact bounds

theorem decodeFrom_four (low : 0x10000 ≤ v) (high : v < 0x110000) :
    decodeFrom position none done (UInt8.ofNat (v / 262144 % 0x08 + 0xF0) :: UInt8.ofNat (v / 4096 % 0x40 + 0x80) ::
      UInt8.ofNat (v / 64 % 0x40 + 0x80) :: UInt8.ofNat (v % 0x40 + 0x80) :: rest) =
      decodeFrom (position + 4) none (Char.ofNat v :: done) rest := by
  have lead : (UInt8.ofNat (v / 262144 % 0x08 + 0xF0)).toNat = v / 262144 + 0xF0 := by
    rw [toNat_byte (by omega)]
    omega
  have second : (UInt8.ofNat (v / 4096 % 0x40 + 0x80)).toNat = v / 4096 % 64 + 0x80 := toNat_byte (by omega)
  have third : (UInt8.ofNat (v / 64 % 0x40 + 0x80)).toNat = v / 64 % 64 + 0x80 := toNat_byte (by omega)
  have fourth : (UInt8.ofNat (v % 0x40 + 0x80)).toNat = v % 64 + 0x80 := toNat_byte (by omega)
  have value : ((v / 262144 * 64 + (v / 4096 % 64 + 0x80 - 0x80)) * 64 + (v / 64 % 64 + 0x80 - 0x80)) * 64 +
      (v % 64 + 0x80 - 0x80) = v := by omega
  obtain ⟨least, most, announced, bounds⟩ := announce_four position lead low high
  rw [decodeFrom_lead (by omega) announced, decodeFrom_more _ (by simp), decodeFrom_more _ (by simp),
    decodeFrom_last _ rfl]
  · simp only [second, third, fourth, value]
  · simp only [fourth]
    omega
  · simp only [third]
    omega
  · simp only [second]
    exact bounds

theorem decodeFrom_utf8EncodeChar (c : Char) :
    ∃ next, decodeFrom position none done (String.utf8EncodeChar c ++ rest) =
      decodeFrom next none (c :: done) rest := by
  have valid : c.val.toNat < 0xD800 ∨ 0xDFFF < c.val.toNat ∧ c.val.toNat < 0x110000 := c.valid
  have whole : Char.ofNat c.val.toNat = c := Char.ofNat_toNat c
  simp only [String.utf8EncodeChar]
  generalize c.val.toNat = v at valid whole
  subst whole
  split
  · rename_i one
    exact ⟨_, decodeFrom_one position done rest one⟩
  · split
    · rename_i one two
      exact ⟨_, decodeFrom_two position done rest (by omega) two⟩
    · split
      · rename_i one two three
        exact ⟨_, decodeFrom_three position done rest (by omega) three (by omega)⟩
      · rename_i one two three
        exact ⟨_, decodeFrom_four position done rest (by omega) (by omega)⟩

end Characters

theorem decodeFrom_encode (position : Nat) (done t : Text) :
    decodeFrom position none done (encode t) = .ok (done.reverse ++ t) := by
  induction t generalizing position done with
  | nil => rw [encode, List.flatMap_nil, decodeFrom, List.append_nil]
  | cons c t ih =>
    obtain ⟨next, read⟩ := decodeFrom_utf8EncodeChar position done (encode t) c
    have encoded : encode (c :: t) = String.utf8EncodeChar c ++ encode t := List.flatMap_cons ..
    rw [encoded, read, ih, List.reverse_cons, List.append_assoc, List.singleton_append]

/-- Text comes back from its encoding. -/
theorem decode_encode (t : Text) : decode (encode t) = .ok t := decodeFrom_encode 0 [] t

section Strictness

variable {position : Nat} {done t : Text} {bytes : List UInt8} {b b₂ b₃ b₄ : UInt8} {p : Pending} {v : Nat}

theorem eq_ofNat {n : Nat} (h : b.toNat = n) : b = UInt8.ofNat n := by rw [← h, UInt8.ofNat_toNat]

theorem utf8EncodeChar_ofNat (valid : v < 0xD800 ∨ 0xDFFF < v ∧ v < 0x110000) :
    String.utf8EncodeChar (Char.ofNat v) =
      if v ≤ 0x7F then [UInt8.ofNat v]
      else if v ≤ 0x7FF then [UInt8.ofNat (v / 64 % 0x20 + 0xC0), UInt8.ofNat (v % 0x40 + 0x80)]
      else if v ≤ 0xFFFF then
        [UInt8.ofNat (v / 4096 % 0x10 + 0xE0), UInt8.ofNat (v / 64 % 0x40 + 0x80), UInt8.ofNat (v % 0x40 + 0x80)]
      else [UInt8.ofNat (v / 262144 % 0x08 + 0xF0), UInt8.ofNat (v / 4096 % 0x40 + 0x80),
        UInt8.ofNat (v / 64 % 0x40 + 0x80), UInt8.ofNat (v % 0x40 + 0x80)] := by
  have whole : (Char.ofNat v).val.toNat = v := by
    have named : v.isValidChar := valid
    rw [Char.ofNat, dif_pos named]
    rfl
  simp only [String.utf8EncodeChar, whole]

theorem encoded_one (high : b.toNat ≤ 0x7F) : String.utf8EncodeChar (Char.ofNat b.toNat) = [b] := by
  rw [utf8EncodeChar_ofNat (by omega), if_pos high, ← eq_ofNat rfl]

theorem encoded_two (low : 0x80 ≤ v) (high : v ≤ 0x7FF) (lead : b.toNat = v / 64 + 0xC0)
    (second : b₂.toNat = v % 64 + 0x80) : String.utf8EncodeChar (Char.ofNat v) = [b, b₂] := by
  have first : b = UInt8.ofNat (v / 64 % 0x20 + 0xC0) := eq_ofNat (by omega)
  rw [utf8EncodeChar_ofNat (by omega), if_neg (by omega), if_pos high, ← first, ← eq_ofNat second]

theorem encoded_three (low : 0x800 ≤ v) (high : v ≤ 0xFFFF) (valid : v < 0xD800 ∨ 0xDFFF < v)
    (lead : b.toNat = v / 4096 + 0xE0) (second : b₂.toNat = v / 64 % 64 + 0x80) (third : b₃.toNat = v % 64 + 0x80) :
    String.utf8EncodeChar (Char.ofNat v) = [b, b₂, b₃] := by
  have first : b = UInt8.ofNat (v / 4096 % 0x10 + 0xE0) := eq_ofNat (by omega)
  rw [utf8EncodeChar_ofNat (by omega), if_neg (by omega), if_neg (by omega), if_pos high, ← first, ← eq_ofNat second,
    ← eq_ofNat third]

theorem encoded_four (low : 0x10000 ≤ v) (high : v < 0x110000) (lead : b.toNat = v / 262144 + 0xF0)
    (second : b₂.toNat = v / 4096 % 64 + 0x80) (third : b₃.toNat = v / 64 % 64 + 0x80)
    (fourth : b₄.toNat = v % 64 + 0x80) : String.utf8EncodeChar (Char.ofNat v) = [b, b₂, b₃, b₄] := by
  have first : b = UInt8.ofNat (v / 262144 % 0x08 + 0xF0) := eq_ofNat (by omega)
  rw [utf8EncodeChar_ofNat (by omega), if_neg (by omega), if_neg (by omega), if_neg (by omega), ← first,
    ← eq_ofNat second, ← eq_ofNat third, ← eq_ofNat fourth]

/-- What the lead bytes of two, three and four announce, with the bounds that keep the value from being one of fewer bytes,
a surrogate or beyond the last code point. -/
theorem announce_cases (h : announce position b = some p) :
    (p.due = 1 ∧ b.toNat = p.value + 0xC0 ∧ 2 ≤ p.value ∧ p.value < 32 ∧ 0x80 ≤ p.low ∧ p.high ≤ 0xBF) ∨
    (p.due = 2 ∧ b.toNat = p.value + 0xE0 ∧ p.value < 16 ∧ 0x80 ≤ p.low ∧ p.high ≤ 0xBF ∧
      (p.value = 0 → 0xA0 ≤ p.low) ∧ (p.value = 0xD → p.high ≤ 0x9F)) ∨
    (p.due = 3 ∧ b.toNat = p.value + 0xF0 ∧ p.value ≤ 4 ∧ 0x80 ≤ p.low ∧ p.high ≤ 0xBF ∧
      (p.value = 0 → 0x90 ≤ p.low) ∧ (p.value = 4 → p.high ≤ 0x8F)) := by
  simp only [announce] at h
  repeat' split at h
  all_goals cases h
  all_goals simp
  all_goals omega

/-- A character under way is not the end: one more byte stands within the bounds. -/
theorem exists_next (h : decodeFrom position (some p) done bytes = .ok t) :
    ∃ b rest, bytes = b :: rest ∧ p.low ≤ b.toNat ∧ b.toNat ≤ p.high := by
  cases bytes with
  | nil => cases h
  | cons b rest =>
    by_cases bounds : p.low ≤ b.toNat ∧ b.toNat ≤ p.high
    · exact ⟨b, rest, rfl, bounds⟩
    · rw [decodeFrom, if_neg bounds] at h
      cases h

theorem exists_last (due : p.due = 1) (h : decodeFrom position (some p) done bytes = .ok t) :
    ∃ b rest, bytes = b :: rest ∧ p.low ≤ b.toNat ∧ b.toNat ≤ p.high ∧
      decodeFrom (position + 1) none (Char.ofNat (p.value * 64 + (b.toNat - 0x80)) :: done) rest = .ok t := by
  obtain ⟨b, rest, rfl, low, high⟩ := exists_next h
  rw [decodeFrom_last ⟨low, high⟩ due] at h
  exact ⟨b, rest, rfl, low, high, h⟩

theorem exists_more (due : p.due ≠ 1) (h : decodeFrom position (some p) done bytes = .ok t) :
    ∃ b rest, bytes = b :: rest ∧ p.low ≤ b.toNat ∧ b.toNat ≤ p.high ∧ decodeFrom (position + 1)
      (some ⟨p.lead, p.start, p.span + 1, p.due - 1, 0x80, 0xBF, p.value * 64 + (b.toNat - 0x80)⟩) done rest = .ok t := by
  obtain ⟨b, rest, rfl, low, high⟩ := exists_next h
  rw [decodeFrom_more ⟨low, high⟩ due] at h
  exact ⟨b, rest, rfl, low, high, h⟩

theorem exists_two (due : p.due = 1) (lead : b.toNat = p.value + 0xC0) (value : 2 ≤ p.value ∧ p.value < 32)
    (bounds : 0x80 ≤ p.low ∧ p.high ≤ 0xBF) (h : decodeFrom position (some p) done bytes = .ok t) :
    ∃ c rest next, b :: bytes = String.utf8EncodeChar c ++ rest ∧ decodeFrom next none (c :: done) rest = .ok t := by
  obtain ⟨b₂, rest, rfl, low, high, read⟩ := exists_last due h
  have encoded : String.utf8EncodeChar (Char.ofNat (p.value * 64 + (b₂.toNat - 0x80))) = [b, b₂] :=
    encoded_two (by omega) (by omega) (by omega) (by omega)
  refine ⟨_, rest, _, ?_, read⟩
  rw [encoded]
  rfl

theorem exists_three (due : p.due = 2) (lead : b.toNat = p.value + 0xE0) (value : p.value < 16)
    (bounds : 0x80 ≤ p.low ∧ p.high ≤ 0xBF) (long : p.value = 0 → 0xA0 ≤ p.low)
    (surrogate : p.value = 0xD → p.high ≤ 0x9F) (h : decodeFrom position (some p) done bytes = .ok t) :
    ∃ c rest next, b :: bytes = String.utf8EncodeChar c ++ rest ∧ decodeFrom next none (c :: done) rest = .ok t := by
  obtain ⟨b₂, rest, rfl, low, high, read⟩ := exists_more (by omega) h
  simp only [due] at read
  obtain ⟨b₃, rest, rfl, low', high', read⟩ := exists_last rfl read
  simp only at low' high' read
  -- The bounds of the second byte lift a value of 0 above the two-byte forms and keep one of 0xD below the surrogates.
  have encoded : String.utf8EncodeChar
      (Char.ofNat ((p.value * 64 + (b₂.toNat - 0x80)) * 64 + (b₃.toNat - 0x80))) = [b, b₂, b₃] :=
    encoded_three (by omega) (by omega) (by omega) (by omega) (by omega) (by omega)
  refine ⟨_, rest, _, ?_, read⟩
  rw [encoded]
  rfl

theorem exists_four (due : p.due = 3) (lead : b.toNat = p.value + 0xF0) (value : p.value ≤ 4)
    (bounds : 0x80 ≤ p.low ∧ p.high ≤ 0xBF) (long : p.value = 0 → 0x90 ≤ p.low)
    (last : p.value = 4 → p.high ≤ 0x8F) (h : decodeFrom position (some p) done bytes = .ok t) :
    ∃ c rest next, b :: bytes = String.utf8EncodeChar c ++ rest ∧ decodeFrom next none (c :: done) rest = .ok t := by
  obtain ⟨b₂, rest, rfl, low, high, read⟩ := exists_more (by omega) h
  simp only [due] at read
  obtain ⟨b₃, rest, rfl, low', high', read⟩ := exists_more (by simp) read
  obtain ⟨b₄, rest, rfl, low'', high'', read⟩ := exists_last rfl read
  simp only at low' high' low'' high'' read
  have encoded : String.utf8EncodeChar (Char.ofNat
      (((p.value * 64 + (b₂.toNat - 0x80)) * 64 + (b₃.toNat - 0x80)) * 64 + (b₄.toNat - 0x80))) = [b, b₂, b₃, b₄] :=
    encoded_four (by omega) (by omega) (by omega) (by omega) (by omega) (by omega)
  refine ⟨_, rest, _, ?_, read⟩
  rw [encoded]
  rfl

/-- The first character that was read stands in front as its own encoding. -/
theorem exists_utf8EncodeChar (h : decodeFrom position none done bytes = .ok t) (more : bytes ≠ []) :
    ∃ c rest next, bytes = String.utf8EncodeChar c ++ rest ∧ decodeFrom next none (c :: done) rest = .ok t := by
  obtain ⟨b, rest, rfl⟩ := List.exists_cons_of_ne_nil more
  by_cases single : b.toNat < 0x80
  · rw [decodeFrom_single single] at h
    refine ⟨Char.ofNat b.toNat, rest, position + 1, ?_, h⟩
    rw [encoded_one (by omega)]
    rfl
  cases announced : announce position b with
  | none =>
    rw [decodeFrom, if_neg single, announced] at h
    cases h
  | some p =>
    rw [decodeFrom_lead (by omega) announced] at h
    rcases announce_cases announced with ⟨due, lead, least, most, low, high⟩ |
      ⟨due, lead, value, low, high, long, surrogate⟩ | ⟨due, lead, value, low, high, long, last⟩
    · exact exists_two due lead ⟨least, most⟩ ⟨low, high⟩ h
    · exact exists_three due lead value ⟨low, high⟩ long surrogate h
    · exact exists_four due lead value ⟨low, high⟩ long last h

theorem encode_of_decodeFrom (h : decodeFrom position none done bytes = .ok t) :
    ∃ s, bytes = encode s ∧ t = done.reverse ++ s := by
  induction size : bytes.length using Nat.strongRecOn generalizing position done bytes with
  | ind n ih =>
    by_cases more : bytes = []
    · subst more
      obtain rfl := Except.ok.inj h
      exact ⟨[], rfl, (List.append_nil _).symm⟩
    · obtain ⟨c, rest, next, rfl, read⟩ := exists_utf8EncodeChar h more
      have shorter : rest.length < n := by
        have some_byte := Char.utf8Size_pos c
        rw [List.length_append, String.length_utf8EncodeChar] at size
        omega
      obtain ⟨s, rfl, rfl⟩ := ih _ shorter read rfl
      refine ⟨c :: s, (List.flatMap_cons ..).symm, ?_⟩
      rw [List.reverse_cons, List.append_assoc, List.singleton_append]

/-- Bytes are decoded exactly if they encode a text, and to that text. -/
theorem decode_eq_ok_iff : decode bytes = .ok t ↔ bytes = encode t := by
  constructor
  · intro h
    obtain ⟨s, rfl, rfl⟩ := encode_of_decodeFrom h
    rfl
  · rintro rfl
    exact decode_encode t

end Strictness

end Utf8

theorem FileSystem.textOf_encode (t : Text) : textOf (Utf8.encode t) = .ok (Text.unifyBreaks t) := by
  rw [textOf, Utf8.decode_encode]
  rfl

end DependencyAudit
