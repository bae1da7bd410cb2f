import DependencyAudit.Proofs.Lookup
import DependencyAudit.Proofs.Mention.Parser

namespace DependencyAudit

namespace Parser

variable {depth : Nat} {k : FileKind} {list content : Text} {file : Path}

/-- A list spoils a text that states a version of no package if the key of the two is that of a record as well, whose
name then starts with a colon. -/
def IsSpoilt (depth : Nat) (k : FileKind) (list content : Text) : Prop :=
  ∃ m ∈ k.mentions depth content, m.name = [] ∧
    ∃ n u, m.version = n ++ ':' :: u ∧ ⟨':' :: n, u⟩ ∈ Record.readAll list

theorem isSpoilt_iff_listed :
    IsSpoilt depth k list content ↔
      ∃ m ∈ k.mentions depth content, m.isListed (Watchlist.parse list) = true ∧ m.name = [] := by
  constructor
  · rintro ⟨m, hm, nameless, collides⟩
    have listed : (Watchlist.parse list).flags [] m.version = true := Watchlist.flags_nil.2 collides
    rw [← nameless] at listed
    exact ⟨m, hm, listed, nameless⟩
  · rintro ⟨m, hm, listed, nameless⟩
    rw [Mention.isListed, nameless] at listed
    exact ⟨m, hm, nameless, Watchlist.flags_nil.1 listed⟩

theorem parse_eq_error {e : FindingError} :
    (ofKind depth k).parse (Watchlist.parse list) file content = .error e ↔
      e = .emptyName ∧ IsSpoilt depth k list content := by
  have versions : ∀ m ∈ k.mentions depth content, m.version ≠ [] := fun m hm => version_ne_nil_of_mem_mentions hm
  rw [parse_eq_report, Mention.report_eq_error versions, isSpoilt_iff_listed]

theorem exists_parse_eq_ok :
    (∃ fs, (ofKind depth k).parse (Watchlist.parse list) file content = .ok fs) ↔ ¬ IsSpoilt depth k list content := by
  constructor
  · rintro ⟨fs, parsed⟩ spoilt
    have failed : (ofKind depth k).parse (Watchlist.parse list) file content = .error .emptyName :=
      parse_eq_error.2 ⟨rfl, spoilt⟩
    rw [parsed] at failed
    cases failed
  · intro sound
    cases parsed : (ofKind depth k).parse (Watchlist.parse list) file content with
    | ok fs => exact ⟨fs, rfl⟩
    | error e => exact absurd (parse_eq_error.1 parsed).2 sound

/-- No name that starts with a colon is on the list, so that no text is spoilt. -/
theorem not_isSpoilt_of_names (h : ∀ r ∈ Record.readAll list, r.name.head? ≠ some ':') :
    ¬ IsSpoilt depth k list content := by
  rintro ⟨m, _, _, n, u, _, hr⟩
  exact h _ hr rfl

/-- Parsing gives findings for every text that the list does not spoil, and fails in one way only. -/
theorem parse_total_iff (depth : Nat) (kind : FileKind) (list content : Text) (file : Path) :
    ((∃ fs, (ofKind depth kind).parse (Watchlist.parse list) file content = .ok fs) ↔
      ¬ IsSpoilt depth kind list content) ∧
    ∀ e, (ofKind depth kind).parse (Watchlist.parse list) file content = .error e ↔
      e = .emptyName ∧ IsSpoilt depth kind list content :=
  ⟨exists_parse_eq_ok, fun _ => parse_eq_error⟩

end Parser

/-- A list with a name that starts with a colon. -/
def colonList : Text := "lodash: 1\n:x: 1".toList

/-- An entry of a listed package before an entry of no package, whose version has a colon. -/
def namelessLockfile : Text := "lodash@^1:\n  version \"1\"\n\n\"\":\n  version \"x:1\"\n".toList

theorem Parser.isSpoilt_namelessLockfile (depth : Nat) : IsSpoilt depth .lockfile colonList namelessLockfile := by
  have stated : (⟨[], "x:1".toList, none⟩ : Mention) ∈ Lockfile.mentions [] (Text.rows namelessLockfile) := by
    decide +kernel
  have listed : (⟨':' :: "x".toList, "1".toList⟩ : Record) ∈ Record.readAll colonList := by decide +kernel
  exact ⟨_, stated, rfl, "x".toList, "1".toList, rfl, listed⟩

theorem Parser.parse_not_total :
    ¬ ∃ depth, ∀ (kind : FileKind) (list content : Text) (file : Path),
      ∃ fs, (Parser.ofKind depth kind).parse (Watchlist.parse list) file content = .ok fs := by
  rintro ⟨depth, total⟩
  have returned := total .lockfile colonList namelessLockfile ⟨.root, ["p".toList, "yarn.lock".toList]⟩
  exact exists_parse_eq_ok.1 returned (isSpoilt_namelessLockfile depth)

end DependencyAudit
