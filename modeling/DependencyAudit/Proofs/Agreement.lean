import DependencyAudit.Command.Run
import DependencyAudit.Proofs.Asked
import DependencyAudit.Proofs.Checking
import DependencyAudit.Proofs.Lockfile.Resolution

namespace DependencyAudit

open Lockfile

namespace Audit

theorem loadWatchlist_result {site : Site} {config : Config} (no_url : config.listUrl.filter (· ≠ []) = none) :
    (loadWatchlist site config).result = (ListSource.ofFile? config.listFile).load site.files := by
  have from_file : ∀ c url, config.listUrl ≠ some (c :: url) := by
    intro c url given
    rw [given] at no_url
    cases no_url
  unfold loadWatchlist
  split
  · rename_i c url given
    exact absurd given (from_file c url)
  · cases loaded : (ListSource.ofFile? config.listFile).load site.files <;> simp only [loaded]

/-- A scan from a root comes to one candidate, a lockfile that holds one entry. -/
def ComesTo (root : Path) (n : Node) (e : Resolution) : Prop :=
  ∃ path t, submissions (Walk.visits Walk.ignoredNames root (.ok n)) = [⟨⟨path, .lockfile⟩, true, Utf8.encode t⟩] ∧
    FileSystem.pathTooLong path.text = false ∧ e.Written t

/-- Where a scan comes to one entry, it fails exactly if the entry is listed. -/
theorem ComesTo.verdict {root : Path} {n : Node} {e : Resolution} (h : ComesTo root n e) (depth : Nat) (w : Watchlist)
    (stamp : Text) :
    (scanTree depth w root (.ok n) stamp).1.verdict = if w.flags e.name e.version then .findings else .clean := by
  obtain ⟨path, t, only, short, written⟩ := h
  obtain ⟨text, decoded, found⟩ := Option.map_eq_some_iff.1 (written.parse w path)
  have read : Submission.content ⟨⟨path, .lockfile⟩, true, Utf8.encode t⟩ = .ok text := by
    rw [Submission.content, if_neg (by simp [short]), if_pos rfl]
    cases bytes : FileSystem.textOf (Utf8.encode t) with
    | error f =>
      rw [bytes] at decoded
      cases decoded
    | ok text' =>
      rw [bytes] at decoded
      rw [Option.some.inj decoded]
      rfl
  have below : Source.below root n = [⟨⟨path, .lockfile⟩, text⟩] := by
    rw [← Source.filterMap_visits, ← filterMap_submissions, only]
    simp [Submission.source?, read, Except.toOption]
  have sole : Source.found depth w ⟨⟨path, .lockfile⟩, text⟩ = e.findings w path := by
    have found : (Parser.ofKind depth .lockfile).parse w path text = .ok (e.findings w path) := found
    rw [Source.found, found]
    rfl
  rw [scanTree_eq, below, List.flatMap_singleton, sole, Resolution.findings]
  split <;> rfl

end Audit

namespace Command

/-- Exit codes that tell the same of findings, of their absence, and of a failure. -/
structure SameVerdict (a b : Nat) : Prop where
  findings : a = 1 ↔ b = 1
  clean : a = 0 ↔ b = 0
  internalError : a = 2 ↔ b = 2

theorem SameVerdict.refl (a : Nat) : SameVerdict a a := ⟨Iff.rfl, Iff.rfl, Iff.rfl⟩

namespace Outcome

variable {o o' : Outcome}

/-- A run that does not end with 1 of itself ends so exactly if something has cut it off. -/
theorem exitCode_of_ending {code : Nat} (other : code ≠ 1) (h : o.ending = .exited code ∨ o.IsCut) :
    (o.exitCode = code ∨ o.exitCode = 1) ∧ (o.exitCode = 1 ↔ o.IsCut) := by
  rcases h with exited | cut
  · have same := exitCode_of_exited exited
    refine ⟨.inl same, ?_⟩
    rw [same]
    exact iff_of_false other (not_isCut_of_exited exited)
  · exact ⟨.inr cut.exitCode, iff_of_true cut.exitCode cut⟩

theorem sameVerdict_iff {code : Nat} (other : code ≠ 1) (h : o.ending = .exited code ∨ o.IsCut)
    (h' : o'.ending = .exited code ∨ o'.IsCut) : SameVerdict o.exitCode o'.exitCode ↔ (o.IsCut ↔ o'.IsCut) := by
  obtain ⟨range, cut⟩ := exitCode_of_ending other h
  obtain ⟨range', cut'⟩ := exitCode_of_ending other h'
  rw [← cut, ← cut']
  constructor
  · exact SameVerdict.findings
  · intro alike
    have same : o.exitCode = o'.exitCode := by omega
    rw [same]
    exact SameVerdict.refl _

end Outcome

theorem ScanOptions.list_of_config {o : ScanOptions} {fs : FileSystem} {config : Audit.Config}
    (h : o.config fs = .ok config) : config.listFile = o.listFile ∧ config.listUrl = o.listUrl := by
  rw [ScanOptions.config, Audit.Config.make, if_neg (by decide)] at h
  split at h
  · cases h
  · cases h
  · obtain rfl := Except.ok.inj h
    exact ⟨rfl, rfl⟩

/-- A list can be loaded and does not have a version of a package. -/
def Unlisted (fs : FileSystem) (source : ListSource) (e : Resolution) (w : Watchlist) : Prop :=
  source.load fs = .ok w ∧ w.flags e.name e.version = false

/-- A list cannot be loaded, and the name in what is told of that is no text. -/
def Unnamed (fs : FileSystem) (source : ListSource) : Prop :=
  ∃ f, source.load fs = .error f ∧ Name.isText f.message = false

/-- A name that a scan has to tell of is no text. -/
def Untold (s : Surroundings) (o : ScanOptions) : Prop :=
  (∃ f, attempt s o = .error f ∧ Name.isText f.message = false) ∨
    ∃ config r, attempt s o = .ok (config, r) ∧ (¬ r.IsText ∨ Name.isText config.jsonOut.text = false)

/-- How far a check of a package version and a scan of an entry that resolves it tell the same. Besides names that are
no text only a version that is not listed is told of differently, if a tag that the name of the package makes with its
listed versions cuts off the check, or if the report of the scan can be neither saved nor refused. -/
structure Agreement (s : Surroundings) (o : ScanOptions) (e : Resolution) (jsonOut : Path)
    (checked scanned : Outcome) : Prop where
  same : SameVerdict checked.exitCode scanned.exitCode ↔
    (Unnamed s.site.files (.ofFile? o.listFile) ∨ (∃ w, Unlisted s.site.files (.ofFile? o.listFile) e w) →
      (checked.IsCut ↔ scanned.IsCut))
  across : checked.IsCut → Unnamed s.site.files (.ofFile? o.listFile) ∨
    ∃ w, Unlisted s.site.files (.ofFile? o.listFile) e w ∧
      ∃ sign, Markup.TagAcross sign e.name (Text.joinWith ", " (w.versionsOf e.name))
  closing : ∀ w, Unlisted s.site.files (.ofFile? o.listFile) e w → '\\' ∉ e.name →
    Markup.TagAcross '/' e.name (Text.joinWith ", " (w.versionsOf e.name)) → checked.IsCut
  unsaved : scanned.IsCut → scanned.IsUnsaved jsonOut ∨ Untold s o

section Agreement

variable {s : Surroundings} {o : ScanOptions} {config : Audit.Config} {n : Node} {e : Resolution}
  (lawful : s.screen.Lawful) (settings : o.config s.site.files = .ok config)
  (no_url : o.listUrl.filter (· ≠ []) = none) (root : Audit.rootAt s.site.files config.root = .ok n)

include settings no_url root

/-- Once its settings are made and there is a directory at its root, a scan reports if it can load its list. -/
theorem attempt_eq : attempt s o = ((ListSource.ofFile? o.listFile).load s.site.files).map fun w =>
    (config, (Audit.scanTree s.site.depth w config.root (.ok n) s.site.now.stamp).1) := by
  obtain ⟨listFile, listUrl⟩ := ScanOptions.list_of_config settings
  have loaded : (Audit.loadWatchlist s.site config).result =
      (ListSource.ofFile? config.listFile).load s.site.files := Audit.loadWatchlist_result (listUrl ▸ no_url)
  rw [attempt, settings, Except.bind, Audit.scan_result, Audit.rootFor, Except.bind, root, Except.bind, Audit.listFor,
    loaded, listFile]
  cases (ListSource.ofFile? o.listFile).load s.site.files <;> rfl

/-- With its list a scan that comes to one entry ends by whether the entry is listed, unless something cuts it off. -/
theorem scan_of_sole (sole : Audit.ComesTo config.root n e) {w : Watchlist}
    (loaded : (ListSource.ofFile? o.listFile).load s.site.files = .ok w) :
    (scan s o).ending = .exited (if w.flags e.name e.version then 1 else 0) ∨ (scan s o).IsCut := by
  have attempted := attempt_eq settings no_url root
  rw [loaded] at attempted
  have ends := ending_or_isCut_of_report attempted
  rw [sole.verdict] at ends
  cases listed : w.flags e.name e.version <;> rw [listed] at ends <;> exact ends

include lawful

/-- Where all names are text, only a report that is neither saved nor refused cuts off a scan. -/
theorem unsaved_of_cut (cut : (scan s o).IsCut) : (scan s o).IsUnsaved config.jsonOut ∨ Untold s o := by
  by_contra neither
  obtain ⟨saved, told⟩ := not_or.1 neither
  have attempted := attempt_eq settings no_url root
  cases loaded : (ListSource.ofFile? o.listFile).load s.site.files with
  | error f =>
    rw [loaded] at attempted
    have text : Name.isText f.message = true := by
      by_contra unnamed
      exact told (.inl ⟨f, attempted, Bool.eq_false_iff.2 unnamed⟩)
    exact Outcome.not_isCut_of_exited (ending_of_failed lawful attempted text) cut
  | ok w =>
    rw [loaded] at attempted
    have named : Name.isText config.jsonOut.text = true := by
      by_contra unnamed
      exact told (.inr ⟨_, _, attempted, .inr (Bool.eq_false_iff.2 unnamed)⟩)
    have text := not_not.1 fun unnamed => told (.inr ⟨_, _, attempted, .inl unnamed⟩)
    rcases ending_of_report attempted lawful text named with exited | unsaved
    · exact Outcome.not_isCut_of_exited exited cut
    · exact saved unsaved

theorem agreement_of_unread {path : Name} {fault : ReadFault}
    (unread : (ListSource.ofFile? o.listFile).load s.site.files = .error (.listUnreadable path fault)) :
    Agreement s o e config.jsonOut (check s e.name e.version o.listFile) (scan s o) := by
  have attempted := attempt_eq settings no_url root
  rw [unread] at attempted
  have loads_none : ∀ w, ¬ Unlisted s.site.files (.ofFile? o.listFile) e w := by
    rintro w ⟨loaded, -⟩
    rw [unread] at loaded
    cases loaded
  have checked : (check s e.name e.version o.listFile).ending = .exited 2 ∨
      (check s e.name e.version o.listFile).IsCut := ending_or_isCut_of_unread unread
  have alike := Outcome.sameVerdict_iff (by decide) checked (ending_or_isCut_of_failed attempted)
  constructor
  case same =>
    rw [alike]
    constructor
    · exact fun both _ => both
    · intro both
      cases text : Name.isText (Failure.listUnreadable path fault).message with
      | true =>
        exact iff_of_false (Outcome.not_isCut_of_exited (ending_of_unread lawful unread text))
          (Outcome.not_isCut_of_exited (ending_of_failed lawful attempted text))
      | false => exact both (.inl ⟨_, unread, text⟩)
  case across =>
    intro cut
    cases text : Name.isText (Failure.listUnreadable path fault).message with
    | true => exact absurd cut (Outcome.not_isCut_of_exited (ending_of_unread lawful unread text))
    | false => exact .inl ⟨_, unread, text⟩
  case closing => exact fun w unlisted => absurd unlisted (loads_none w)
  case unsaved => exact unsaved_of_cut lawful settings no_url root

variable (sole : Audit.ComesTo config.root n e) {w : Watchlist}
  (loaded : (ListSource.ofFile? o.listFile).load s.site.files = .ok w)

include sole loaded

theorem agreement_of_listed (listed : w.flags e.name e.version = true) :
    Agreement s o e config.jsonOut (check s e.name e.version o.listFile) (scan s o) := by
  have checked := check_of_listed lawful loaded listed
  have scanned := scan_of_sole settings no_url root sole loaded
  rw [listed] at scanned
  have alike : (scan s o).exitCode = 1 := by
    rcases scanned with exited | cut
    · exact Outcome.exitCode_of_exited exited
    · exact cut.exitCode
  have not_unlisted : ∀ w, ¬ Unlisted s.site.files (.ofFile? o.listFile) e w := by
    rintro w' ⟨loaded', absent⟩
    obtain rfl := Except.ok.inj (loaded.symm.trans loaded')
    rw [listed] at absent
    cases absent
  constructor
  case same =>
    rw [Outcome.exitCode_of_exited checked, alike]
    apply iff_of_true (SameVerdict.refl 1)
    rintro (⟨f, unread, -⟩ | ⟨w', unlisted⟩)
    · rw [loaded] at unread
      cases unread
    · exact absurd unlisted (not_unlisted w')
  case across => exact fun cut => absurd cut (Outcome.not_isCut_of_exited checked)
  case closing => exact fun w' unlisted => absurd unlisted (not_unlisted w')
  case unsaved => exact unsaved_of_cut lawful settings no_url root

/-- A version that is not listed is where the one run can be cut off without the other. -/
theorem agreement_of_unlisted (absent : w.flags e.name e.version = false) :
    Agreement s o e config.jsonOut (check s e.name e.version o.listFile) (scan s o) := by
  have unlisted : Unlisted s.site.files (.ofFile? o.listFile) e w := ⟨loaded, absent⟩
  have scanned := scan_of_sole settings no_url root sole loaded
  rw [absent] at scanned
  have checked : (check s e.name e.version o.listFile).ending = .exited 0 ∨
      (check s e.name e.version o.listFile).IsCut := by
    cases known : s.screen.shown (knownLine e.name (w.versionsOf e.name)) with
    | ok lines => exact .inl (check_of_known lawful loaded absent ⟨lines, known⟩)
    | error f => exact .inr ⟨_, check_of_spoilt lawful loaded absent known⟩
  constructor
  case same =>
    rw [Outcome.sameVerdict_iff (by decide) checked scanned]
    constructor
    · exact fun both _ => both
    · exact fun both => both (.inr ⟨w, unlisted⟩)
  case across =>
    intro cut
    refine .inr ⟨w, unlisted, ?_⟩
    by_contra apart
    have known := shows_knownLine lawful (not_exists.1 apart)
    exact Outcome.not_isCut_of_exited (check_of_known lawful loaded absent known) cut
  case closing =>
    rintro w' ⟨loaded', -⟩ slashless across
    obtain rfl := Except.ok.inj (loaded.symm.trans loaded')
    obtain ⟨f, spoilt⟩ := knownLine_fault lawful across slashless
    exact ⟨_, check_of_spoilt lawful loaded absent spoilt⟩
  case unsaved => exact unsaved_of_cut lawful settings no_url root

omit loaded

/-- Whatever the list, the package and its version, checking it and scanning an entry that resolves it tell the same but
where the one or the other is cut off. -/
theorem run_agreement {read : Variables → List Text → Option Request} (clean : Request.IsClean read)
    {checkWords scanWords : List Text}
    (asked : read s.vars checkWords = some (.check e.name e.version o.listFile))
    (asked' : read s.vars scanWords = some (.scan o)) :
    Agreement s o e config.jsonOut (run read s checkWords) (run read s scanWords) := by
  have checked : run read s checkWords = check s e.name e.version o.listFile := by
    rw [run, asked]
    rfl
  have scanned : run read s scanWords = scan s o := by
    rw [run, asked']
    rfl
  rw [checked, scanned]
  have null : ∀ p, ListSource.ofFile? o.listFile = .file p → Name.null ∉ p.text := by
    intro p file
    cases given : o.listFile with
    | none =>
      rw [given] at file
      cases file
    | some q =>
      rw [given] at file asked
      obtain rfl : q = p := ListSource.file.inj file
      exact clean _ _ _ _ _ asked
  cases loaded : (ListSource.ofFile? o.listFile).load s.site.files with
  | error f =>
    obtain ⟨path, fault, rfl⟩ := ListSource.load_eq_error null loaded
    exact agreement_of_unread lawful settings no_url root loaded
  | ok w =>
    cases listed : w.flags e.name e.version with
    | true => exact agreement_of_listed lawful settings no_url root sole loaded listed
    | false => exact agreement_of_unlisted lawful settings no_url root sole loaded listed

end Agreement

theorem run_agreement_lodash :
    let s := surroundingsOf (lodashFiles [])
    let checkWords := ["check".toList, "lodash".toList, "1".toList, "--compromised-file".toList, "list".toList]
    let scanWords := ["scan".toList, "--compromised-file".toList, "list".toList]
    ∃ (e : Resolution) (o : ScanOptions) (config : Audit.Config) (n : Node),
      e.name = "lodash".toList ∧ e.version = "1".toList ∧ s.screen.Lawful ∧ Request.IsClean Request.ofWords? ∧
      o.config s.site.files = .ok config ∧ o.listUrl.filter (· ≠ []) = none ∧
      Audit.rootAt s.site.files config.root = .ok n ∧ Audit.ComesTo config.root n e ∧
      Request.ofWords? s.vars checkWords = some (.check e.name e.version o.listFile) ∧
      Request.ofWords? s.vars scanWords = some (.scan o) ∧
      Agreement s o e config.jsonOut (run Request.ofWords? s checkWords) (run Request.ofWords? s scanWords) := by
  intro s checkWords scanWords
  let e : Resolution := ⟨"lodash".toList, "^1".toList, "1".toList, by simp, by simp [Text.isBlank], by simp, by simp,
    by simp, by simp, by simp⟩
  let o : ScanOptions := ⟨none, none, some (Path.ofText "list".toList), none, false, false⟩
  let config : Audit.Config := ⟨⟨.root, []⟩, ⟨.root, ["scan-results.json".toList]⟩, o.listFile, none, 8⟩
  have lawful : s.screen.Lawful := Console.Screen.lawful_ofWidth 80
  have settings : o.config s.site.files = .ok config := by rfl
  have root : Audit.rootAt s.site.files config.root = .ok s.site.files.tree := by rfl
  have sole : Audit.ComesTo config.root s.site.files.tree e := by
    refine ⟨⟨.root, [FileKind.lockfile.fileName]⟩, "lodash@^1:\n  version \"1\"\n".toList, ?_, by decide +kernel,
      ['\n'], by decide, ['\n'], by decide, by decide⟩
    rw [show s.site.files.tree = (lodashFiles []).tree from rfl, lodashFiles, listedFiles, Walk.visits_directory]
    rfl
  have asked : Request.ofWords? s.vars checkWords = some (.check e.name e.version o.listFile) := by
    decide +kernel
  have asked' : Request.ofWords? s.vars scanWords = some (.scan o) := by decide +kernel
  exact ⟨e, o, config, s.site.files.tree, rfl, rfl, lawful, Request.isClean_ofWords?, settings, rfl, root, sole, asked,
    asked', run_agreement lawful settings rfl root sole Request.isClean_ofWords? asked asked'⟩

/-- A list with a package whose name makes a closing tag with its version, and a lockfile that has it at another. -/
def slashedSurroundings : Surroundings :=
  surroundingsOf (listedFiles "[/x: y]".toList "[/x@^1:\n  version \"1\"\n".toList [])

/-- The check of a version that is not listed ends with 1 where the scan passes. -/
theorem run_check_cut_off :
    let option := ["--compromised-file".toList, "list".toList]
    (run Request.ofWords? slashedSurroundings ("check".toList :: "[/x".toList :: "1".toList :: option)).exitCode = 1 ∧
      (run Request.ofWords? slashedSurroundings ("scan".toList :: option)).exitCode = 0 := by
  intro option
  let list : Path := Path.ofText "list".toList
  let w : Watchlist := ⟨[⟨"[/x".toList, ["y]".toList]⟩], ["[/x:y]".toList]⟩
  have lawful : slashedSurroundings.screen.Lawful := Console.Screen.lawful_ofWidth 80
  have asked : Request.ofWords? [] ("check".toList :: "[/x".toList :: "1".toList :: option) =
      some (.check "[/x".toList "1".toList (some list)) := by decide +kernel
  have asked' : Request.ofWords? [] ("scan".toList :: option) =
      some (.scan ⟨none, none, some list, none, false, false⟩) := by decide +kernel
  have loaded : (ListSource.ofFile? (some list)).load slashedSurroundings.site.files = .ok w := by rfl
  have across : Markup.TagAcross '/' "[/x".toList (Text.joinWith ", " (w.versionsOf "[/x".toList)) :=
    ⟨by decide, ⟨[], ['x'], rfl, by simp [Markup.isBracket]⟩, by decide⟩
  constructor
  · obtain ⟨f, spoilt⟩ := knownLine_fault lawful across (by decide)
    have cut : (run Request.ofWords? slashedSurroundings
        ("check".toList :: "[/x".toList :: "1".toList :: option)).IsCut := by
      rw [run, show Request.ofWords? slashedSurroundings.vars _ = _ from asked]
      exact ⟨_, check_of_spoilt lawful loaded (by decide) spoilt⟩
    exact cut.exitCode
  · have saved : saved? slashedSurroundings ⟨none, none, some list, none, false, false⟩ =
        some (.clean, ⟨.root, ["scan-results.json".toList]⟩) := by decide +kernel
    obtain ⟨config, r, h, passes, -, text, named, written⟩ := exists_of_saved? saved
    obtain ⟨screen, log, ends⟩ := scan_of_saved h lawful text named written
    rw [run, show Request.ofWords? slashedSurroundings.vars _ = _ from asked']
    simp only [answer]
    rw [ends, Outcome.exitCode, passes]
    rfl

end Command

end DependencyAudit
