import DependencyAudit.Proofs.Record.Line
import DependencyAudit.Proofs.Utf8
import DependencyAudit.Proofs.Watchlist.Sessions
import DependencyAudit.Watchlist.Source

namespace DependencyAudit

/-- Nothing but blank lines is lost where carriage returns become line feeds. -/
theorem Record.readAll_unifyBreaks (t : Text) : readAll (Text.unifyBreaks t) = readAll t := by
  induction t using Text.break_induction with
  | line t one => rw [Text.unifyBreaks_of_isLine one]
  | step t c rest one isBreak ih =>
    rw [Text.unifyBreaks_append one.return_not_mem, readAll_line_break one isBreak]
    by_cases ret : c = '\r'
    · subst ret
      by_cases feed : ∃ s, rest = '\n' :: s
      · obtain ⟨s, rfl⟩ := feed
        -- The pair becomes what its line feed alone becomes.
        have pair : Text.unifyBreaks ('\r' :: '\n' :: s) = '\n' :: Text.unifyBreaks s := rfl
        have alone : Text.unifyBreaks ('\n' :: s) = '\n' :: Text.unifyBreaks s := Text.unifyBreaks_cons_other (by decide) s
        have blank : readAll ('\n' :: Text.unifyBreaks s) = readAll (Text.unifyBreaks s) := rfl
        rw [alone, blank] at ih
        rw [pair, readAll_line_break one rfl, ih]
      · have apart : ∀ s, rest ≠ '\n' :: s := fun s follows => feed ⟨s, follows⟩
        rw [Text.unifyBreaks_return apart, readAll_line_break one rfl, ih]
    · rw [Text.unifyBreaks_cons_other ret, readAll_line_break one isBreak, ih]

/-- Bytes that encode a text. -/
def Utf8.IsEncoding (bytes : List UInt8) : Prop := ∃ t, bytes = encode t

namespace FileSystem

theorem textOf_of_not_isEncoding {bytes : List UInt8} (h : ¬ Utf8.IsEncoding bytes) : ∃ f, textOf bytes = .error f := by
  rw [textOf]
  cases decoded : Utf8.decode bytes with
  | error f => exact ⟨f, rfl⟩
  | ok t => exact absurd ⟨t, Utf8.decode_eq_ok_iff.1 decoded⟩ h

theorem openFile_eq_nullByte {fs : FileSystem} {path : Name} :
    fs.openFile path = .error .nullByte ↔ Name.null ∈ path := by
  rw [openFile]
  by_cases null : Name.null ∈ path
  · simp [null]
  · simp only [List.contains_iff_mem, null, if_false, iff_false]
    cases fs.read path <;> simp [Except.mapError]

end FileSystem

namespace ListSource

variable {fs : FileSystem} {p : Path}

theorem text_of_encode {t : Text} (opened : fs.openFile p.text = .ok (Utf8.encode t)) :
    (file p).text fs = .ok (Text.unifyBreaks t) := by
  simp only [text, opened, FileSystem.textOf_encode]

theorem load_of_encode {t : Text} (opened : fs.openFile p.text = .ok (Utf8.encode t)) :
    (file p).load fs = .ok (Watchlist.parse t) := by
  rw [load, text_of_encode opened, Except.map, Watchlist.parse, Record.readAll_unifyBreaks]
  rfl

variable (fs p)

/-- The ways to load a list from a file: its bytes encode a text, they encode none, it cannot be opened, or its path has a
null character. -/
theorem load_cases :
    (∃ t, fs.openFile p.text = .ok (Utf8.encode t) ∧ (file p).load fs = .ok (Watchlist.parse t)) ∨
    (∃ bytes f, fs.openFile p.text = .ok bytes ∧ ¬ Utf8.IsEncoding bytes ∧
      (file p).load fs = .error (.listUnreadable p.text (.undecodable f))) ∨
    (∃ e, fs.openFile p.text = .error (.os e) ∧ (file p).load fs = .error (.listUnreadable p.text (.os e))) ∨
    fs.openFile p.text = .error .nullByte ∧ (file p).load fs = .error .nullByte := by
  cases opened : fs.openFile p.text with
  | error f =>
    right
    right
    cases f with
    | nullByte => exact .inr ⟨rfl, by simp [load, text, opened, Except.map]⟩
    | os e => exact .inl ⟨e, rfl, by simp [load, text, opened, Except.map]⟩
  | ok bytes =>
    by_cases encoding : Utf8.IsEncoding bytes
    · left
      obtain ⟨t, rfl⟩ := encoding
      exact ⟨t, rfl, load_of_encode opened⟩
    · right
      left
      obtain ⟨f, refused⟩ := FileSystem.textOf_of_not_isEncoding encoding
      exact ⟨bytes, f, rfl, encoding, by simp [load, text, opened, refused, Except.map]⟩

/-- A list is unreadable if it cannot be opened or encodes no text; a null character in its path fails in another way. -/
theorem unreadable_iff : (∃ source cause, (file p).load fs = .error (.listUnreadable source cause)) ↔
    Name.null ∉ p.text ∧ ((∃ f, fs.openFile p.text = .error f) ∨
      ∃ bytes, fs.openFile p.text = .ok bytes ∧ ¬ Utf8.IsEncoding bytes) := by
  have null : fs.openFile p.text = .error .nullByte ↔ Name.null ∈ p.text := FileSystem.openFile_eq_nullByte
  rw [← null]
  rcases load_cases fs p with ⟨t, opened, loaded⟩ | ⟨bytes, f, opened, invalid, loaded⟩ | ⟨e, opened, loaded⟩ |
    ⟨opened, loaded⟩
  · have encoding : Utf8.IsEncoding (Utf8.encode t) := ⟨t, rfl⟩
    simp [opened, loaded, encoding]
  · simp [opened, loaded, invalid]
  · simp [opened, loaded]
  · simp [opened, loaded]

theorem load_of_null (h : Name.null ∈ p.text) : (file p).load fs = .error .nullByte := by
  have opened : fs.openFile p.text = .error .nullByte := FileSystem.openFile_eq_nullByte.2 h
  simp [load, text, opened, Except.map]

end ListSource

namespace Download.Client

variable {c : Client} {t : Text} {reason : Option Text} {later : List Reply}

theorem fetchText_of_ok (h : c.replies = .response 200 reason (.ok t) :: later) (url : Text) :
    (c.fetchText url).result = .ok t :=
  (fetchText_eq_ok h url t).2 (.inl ⟨reason, rfl⟩)

theorem fetchWatchlist_of_ok (h : c.replies = .response 200 reason (.ok t) :: later) (url : Text) :
    (c.fetchWatchlist url).result = .ok (Watchlist.parse t) := by
  rw [fetchWatchlist_result, fetchText_of_ok h]
  rfl

end Download.Client

namespace ListSource

/-- A list gives the same records and the same watchlist from a file that encodes it and from a response that carries it.
Loading from a file fails as unreadable exactly if the file cannot be opened or encodes no text, but for a path with a null
character, which fails in its own way. -/
theorem load_as_fetched (fs : FileSystem) (p : Path) :
    (∀ t, fs.openFile p.text = .ok (Utf8.encode t) →
      ∀ (c : Download.Client) reason later, c.replies = .response 200 reason (.ok t) :: later → ∀ url,
        (file p).load fs = .ok (Watchlist.parse t) ∧ (c.fetchWatchlist url).result = .ok (Watchlist.parse t) ∧
        ∃ read fetched, (file p).text fs = .ok read ∧ (c.fetchText url).result = .ok fetched ∧
          Record.readAll read = Record.readAll fetched) ∧
    ((∃ source cause, (file p).load fs = .error (.listUnreadable source cause)) ↔ Name.null ∉ p.text ∧
      ((∃ f, fs.openFile p.text = .error f) ∨
        ∃ bytes, fs.openFile p.text = .ok bytes ∧ ¬ Utf8.IsEncoding bytes)) ∧
    (Name.null ∈ p.text → (file p).load fs = .error .nullByte) := by
  refine ⟨?_, unreadable_iff fs p, load_of_null fs p⟩
  intro t opened c reason later replies url
  have read : (file p).text fs = .ok (Text.unifyBreaks t) := text_of_encode opened
  have fetched : (c.fetchText url).result = .ok t := Download.Client.fetchText_of_ok replies url
  refine ⟨load_of_encode opened, Download.Client.fetchWatchlist_of_ok replies url, _, t, read, fetched, ?_⟩
  exact Record.readAll_unifyBreaks t

/-- A list with a mix of line breaks. -/
def mixedList : Text := "a: 1\r\nb: é\r\u2028\rc: 3\x0b\n\rd: 4".toList

/-- The list in a file, next to a file that is no text. -/
def mixedFiles : FileSystem :=
  ⟨[], .directory true [⟨"list".toList, false, false, .file (Utf8.encode mixedList)⟩,
    ⟨"noise".toList, false, false, .file [0xC0, 0xAF]⟩], [], .none⟩

theorem load_as_fetched_mixed :
    let c := Download.Client.start false [.response 200 none (.ok mixedList)]
    let list := Path.ofText "list".toList
    let noise := Path.ofText "noise".toList
    let nulled := Path.ofText "li\x00st".toList
    ((file list).load mixedFiles = .ok (Watchlist.parse mixedList) ∧
        (c.fetchWatchlist []).result = .ok (Watchlist.parse mixedList)) ∧
      Text.unifyBreaks mixedList ≠ mixedList ∧ (Watchlist.parse mixedList).versionCount = 4 ∧
      (∃ source cause, (file noise).load mixedFiles = .error (.listUnreadable source cause)) ∧
      (file nulled).load mixedFiles = .error .nullByte := by
  intro c list noise nulled
  have opened : mixedFiles.openFile list.text = .ok (Utf8.encode mixedList) := by rfl
  have noisy : mixedFiles.openFile noise.text = .ok [0xC0, 0xAF] := by rfl
  have invalid : ¬ Utf8.IsEncoding [0xC0, 0xAF] := by
    rintro ⟨u, encoding⟩
    have read := Utf8.decode_eq_ok_iff.2 encoding
    cases read
  obtain ⟨alike, -, -⟩ := load_as_fetched mixedFiles list
  obtain ⟨loaded, fetched, -⟩ := alike mixedList opened c none [] rfl []
  obtain ⟨-, unreadable, -⟩ := load_as_fetched mixedFiles noise
  obtain ⟨-, -, refused⟩ := load_as_fetched mixedFiles nulled
  have unread : ∃ source cause, (file noise).load mixedFiles = .error (.listUnreadable source cause) :=
    unreadable.2 ⟨by decide, .inr ⟨_, noisy, invalid⟩⟩
  exact ⟨⟨loaded, fetched⟩, by decide, by decide, unread, refused (by decide)⟩

/-- A list that cannot be opened and fails in another way than as unreadable. -/
theorem load_null_path :
    let p := Path.ofText "/work/hof-scan/tmp/a\x00b".toList
    (∃ f, mixedFiles.openFile p.text = .error f) ∧ (file p).load mixedFiles = .error .nullByte ∧
      ¬ ∃ source cause, (file p).load mixedFiles = .error (.listUnreadable source cause) := by
  intro p
  have null : Name.null ∈ p.text := by decide
  have failed : (file p).load mixedFiles = .error .nullByte := load_of_null mixedFiles p null
  refine ⟨⟨_, FileSystem.openFile_eq_nullByte.2 null⟩, failed, ?_⟩
  rintro ⟨source, cause, unreadable⟩
  rw [failed] at unreadable
  cases unreadable

end ListSource

end DependencyAudit
