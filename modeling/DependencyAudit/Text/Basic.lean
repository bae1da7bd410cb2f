namespace DependencyAudit

/-- Text is its list of characters, so that readers recurse on it. -/
abbrev Text := List Char

namespace Text

/-- The characters that trimming removes: tabs, line breaks, the information separators and every Unicode space. -/
def isBlank (c : Char) : Bool :=
  let n := c.toNat
  (9 ≤ n && n ≤ 13) || (28 ≤ n && n ≤ 32) || n == 0x85 || n == 0xA0 || n == 0x1680 ||
    (0x2000 ≤ n && n ≤ 0x200A) || n == 0x2028 || n == 0x2029 || n == 0x202F || n == 0x205F || n == 0x3000

/-- Whether a number is in one of the ranges from one place up to another, in so many halvings at most. -/
def inRangesBetween (ranges : Array (Nat × Nat)) (n : Nat) : Nat → Nat → Nat → Bool
  | 0, _, _ => false
  | steps + 1, first, stop =>
    let middle := (first + stop) / 2
    match ranges[middle]? with
    | none => false
    | some (low, high) =>
      if stop ≤ first then false
      else if n < low then inRangesBetween ranges n steps first middle
      else if high < n then inRangesBetween ranges n steps (middle + 1) stop
      else true

/-- Whether a character has its number in one of some ranges, both ends included. The ranges are in order and apart. -/
def inRanges (ranges : Array (Nat × Nat)) (c : Char) : Bool :=
  inRangesBetween ranges c.toNat (ranges.size.log2 + 1) 0 ranges.size

def trimLeft (t : Text) : Text := t.dropWhile isBlank

def trimRight (t : Text) : Text := (t.reverse.dropWhile isBlank).reverse

def trim (t : Text) : Text := trimRight (trimLeft t)

/-- What stands between blanks. -/
def words (t : Text) : List Text := (t.splitOnP isBlank).filter (· ≠ [])

def isBlankLine (t : Text) : Bool := t.all isBlank

/-- Cuts at the last occurrence of `d`, which is in neither part. -/
def cutLast (d : Char) : Text → Option (Text × Text)
  | [] => none
  | c :: r =>
    match cutLast d r with
    | some (before, after) => some (c :: before, after)
    | none => if c = d then some ([], r) else none

theorem cutLast_length {d : Char} {t before after : Text} (h : cutLast d t = some (before, after)) :
    before.length < t.length := by
  induction t generalizing before with
  | nil => simp [cutLast] at h
  | cons c r ih =>
    simp only [cutLast] at h
    split at h
    · rename_i hr
      simp only [Option.some.injEq, Prod.mk.injEq] at h
      rw [← h.1]
      have := ih (h.2 ▸ hr)
      simp only [List.length_cons]
      omega
    · split at h
      · simp_all
      · simp at h

/-- Cuts at the first occurrence of `d`, which is in neither part. -/
def cutFirst (d : Char) : Text → Option (Text × Text)
  | [] => none
  | c :: r => if c = d then some ([], r) else (cutFirst d r).map fun (before, after) => (c :: before, after)

theorem cutFirst_length {d : Char} {t before after : Text} (h : cutFirst d t = some (before, after)) :
    after.length < t.length := by
  induction t generalizing before with
  | nil => simp [cutFirst] at h
  | cons c r ih =>
    simp only [cutFirst] at h
    split at h
    · simp_all
    obtain ⟨⟨w, s⟩, hr, hs⟩ := Option.map_eq_some_iff.1 h
    simp only [Prod.mk.injEq] at hs
    have := ih (hs.2 ▸ hr)
    simp only [List.length_cons]
    omega

/-- Puts a character in front of the first piece. -/
def pushFirst (c : Char) : List Text → List Text
  | [] => [[c]]
  | t :: ts => (c :: t) :: ts

/-- The rest of the text after an opening word. -/
def afterWord : Text → Text → Option Text
  | [], t => some t
  | _ :: _, [] => none
  | w :: ws, c :: r => if w = c then afterWord ws r else none

def decimal (n : Nat) : Text := Nat.toDigits 10 n

def signed : Int → Text
  | .ofNat n => decimal n
  | .negSucc n => '-' :: decimal (n + 1)

/-- Zeros in front up to the width. -/
def zeroPadded (width n : Nat) : Text :=
  let d := decimal n
  List.replicate (width - d.length) '0' ++ d

/-- Lower-case hexadecimal digits, zeros in front up to the width. -/
def hexPadded (width n : Nat) : Text :=
  let d := Nat.toDigits 16 n
  List.replicate (width - d.length) '0' ++ d

def joinWith (separator : String) (parts : List Text) : Text :=
  separator.toList.intercalate parts

/-- Insertion into a strictly increasing list; a text that is there already is not added again. -/
def insertSorted (t : Text) : List Text → List Text
  | [] => [t]
  | u :: us => if t = u then u :: us else if t < u then t :: u :: us else u :: insertSorted t us

end Text

end DependencyAudit
