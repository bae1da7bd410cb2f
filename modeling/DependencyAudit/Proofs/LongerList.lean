import DependencyAudit.Proofs.Mention.Refusal
import DependencyAudit.Proofs.ScanReport
import Mathlib.Data.List.Flatten

namespace DependencyAudit

/-- A list with more text from a new line on. -/
def Watchlist.longer (list more : Text) : Text := list ++ '\n' :: more

namespace Source

variable {depth : Nat} {list more : Text} {s : Source}

/-- The list makes the parser fail on the candidate's text. -/
def IsSpoilt (depth : Nat) (list : Text) (s : Source) : Prop := Parser.IsSpoilt depth s.candidate.kind list s.text

theorem found_of_isSpoilt (h : s.IsSpoilt depth list) : s.found depth (Watchlist.parse list) = [] := by
  have failed : (Parser.ofKind depth s.candidate.kind).parse (Watchlist.parse list) s.candidate.path s.text =
      .error .emptyName := Parser.parse_eq_error.2 ⟨rfl, h⟩
  rw [found, failed]
  rfl

/-- A file that the longer list does not spoil loses no finding by it: the shorter one finds what it lists of them. -/
theorem found_eq_filter (h : ¬ s.IsSpoilt depth (Watchlist.longer list more)) :
    s.found depth (Watchlist.parse list) = (s.found depth (Watchlist.parse (Watchlist.longer list more))).filter fun f =>
      (Watchlist.parse list).flags f.name f.version := by
  obtain ⟨fs, parsed⟩ : ∃ fs, (Parser.ofKind depth s.candidate.kind).parse
      (Watchlist.parse (Watchlist.longer list more)) s.candidate.path s.text = .ok fs := Parser.exists_parse_eq_ok.2 h
  have shorter : (Parser.ofKind depth s.candidate.kind).parse (Watchlist.parse list) s.candidate.path s.text =
      .ok (fs.filter fun f => (Watchlist.parse list).flags f.name f.version) := by
    rw [Parser.parse_eq_report] at parsed ⊢
    exact Mention.report_of_longer (fun _ _ => Watchlist.flags_parse_append) parsed
  rw [found, found, parsed, shorter]
  rfl

/-- The first finding for a package version stays the first when other versions are found as well. -/
theorem firsts_found_sublist
    (h : s.IsSpoilt depth (Watchlist.longer list more) → s.found depth (Watchlist.parse list) = []) :
    (firsts (fun f => (f.name, f.version)) (s.found depth (Watchlist.parse list))).Sublist
      (firsts (fun f => (f.name, f.version)) (s.found depth (Watchlist.parse (Watchlist.longer list more)))) := by
  by_cases spoilt : s.IsSpoilt depth (Watchlist.longer list more)
  · rw [h spoilt]
    exact List.nil_sublist _
  · rw [found_eq_filter spoilt, firsts_filter]
    · exact List.filter_sublist
    · intro f g same
      obtain ⟨name, version⟩ := Prod.mk.inj same
      rw [name, version]

end Source

namespace Report

variable {depth : Nat} {list more : Text} {r r' : Report} {n : Node}

/-- With a longer list all findings stay in their order exactly if the files that it spoils had none. -/
theorem findings_sublist_iff (h : r.Describes depth (Watchlist.parse list) n)
    (h' : r'.Describes depth (Watchlist.parse (Watchlist.longer list more)) n) (root : r'.root = r.root) :
    r.findings.Sublist r'.findings ↔ ∀ s ∈ Source.below r.root n, s.IsSpoilt depth (Watchlist.longer list more) →
      s.found depth (Watchlist.parse list) = [] := by
  constructor
  · intro sub s hs spoilt
    apply List.eq_nil_iff_forall_not_mem.2
    intro f hf
    obtain ⟨g, hg, same⟩ := h.kept s hs f hf
    obtain ⟨t, ht, found, place⟩ := h'.placed g (sub.subset hg)
    rw [root] at ht
    -- The finding that is left comes from a file at the same path, which is the spoilt one.
    have path : t.candidate.path = s.candidate.path := by
      rw [← place, ← Source.file_of_mem_found hf]
      exact congrArg Finding.Key.file same
    have paths : ((Source.below r.root n).map fun s => s.candidate.path).Nodup := by
      have nodup := h.paths
      rw [h.scanned, List.map_map] at nodup
      exact nodup
    obtain rfl : t = s := List.inj_on_of_nodup_map paths ht hs path
    rw [Source.found_of_isSpoilt spoilt] at found
    exact List.not_mem_nil found
  · intro unharmed
    rw [h.findings, h'.findings, root]
    apply List.Sublist.flatMap_right
    intro s hs
    exact Source.firsts_found_sublist (unharmed s hs)

theorem passed_of_sublist (scanned : r'.scanned = r.scanned) (sub : r.findings.Sublist r'.findings)
    (h : r'.passed = true) : r.passed = true := by
  simp only [passed, isInconclusive, scanned, Bool.and_eq_true, List.isEmpty_iff] at h ⊢
  obtain ⟨none_found, conclusive⟩ := h
  rw [none_found] at sub
  exact ⟨List.sublist_nil.1 sub, conclusive⟩

end Report

namespace Audit

/-- Two scans of the same tree, the second with a longer list: the second reports on the same files. It keeps the
findings of the first exactly if the files that the longer list spoils had none, and then passes only if the first
does. -/
theorem scan_longer_iff (site : Site) (config : Config) (root : Option Path) (list more : Text) (r : Report)
    (tree : site.files.tree.NamesDistinct)
    (h : (scan site config (some (Watchlist.parse list)) root).result = .ok r) :
    ∃ r' n, (scan site config (some (Watchlist.parse (Watchlist.longer list more))) root).result = .ok r' ∧
      rootAt site.files r.root = .ok n ∧ r'.root = r.root ∧ r'.scanned = r.scanned ∧
      (r.findings.Sublist r'.findings ↔
        ∀ s ∈ Source.below r.root n, s.IsSpoilt site.depth (Watchlist.longer list more) →
          s.found site.depth (Watchlist.parse list) = []) ∧
      (r.findings.Sublist r'.findings → r'.passed = true → r.passed = true) := by
  obtain ⟨place, n, w, hplace, hn, hw, rfl⟩ := scan_eq_ok.1 h
  obtain rfl : Watchlist.parse list = w := Except.ok.inj hw
  have distinct : n.NamesDistinct := namesDistinct_of_rootAt tree hn
  have shorter := scanTree_describes site.depth (Watchlist.parse list) place distinct site.now.stamp
  have longer := scanTree_describes site.depth (Watchlist.parse (Watchlist.longer list more)) place distinct site.now.stamp
  have roots : (scanTree site.depth (Watchlist.parse (Watchlist.longer list more)) place (.ok n) site.now.stamp).1.root =
      (scanTree site.depth (Watchlist.parse list) place (.ok n) site.now.stamp).1.root := by
    rw [scanTree_root, scanTree_root]
  have scanned : (scanTree site.depth (Watchlist.parse (Watchlist.longer list more)) place (.ok n) site.now.stamp).1.scanned =
      (scanTree site.depth (Watchlist.parse list) place (.ok n) site.now.stamp).1.scanned := by
    rw [longer.scanned, shorter.scanned, roots]
  refine ⟨_, n, scan_eq_ok.2 ⟨place, n, _, hplace, hn, rfl, rfl⟩, ?_, roots, scanned, ?_, ?_⟩
  · rw [scanTree_root]
    exact hn
  · exact Report.findings_sublist_iff shorter longer roots
  · exact Report.passed_of_sublist scanned

theorem eq_ok_of_toOption {ε α : Type} {x : Except ε α} {a : α} (h : x.toOption = some a) : x = .ok a := by
  cases x with
  | error e => cases h
  | ok b => exact congrArg _ (Option.some.inj h)

theorem exists_of_toOption_map {ε α β : Type} {x : Except ε α} {f : α → β} {b : β}
    (h : x.toOption.map f = some b) : ∃ a, x = .ok a ∧ f a = b := by
  obtain ⟨a, found, same⟩ := Option.map_eq_some_iff.1 h
  exact ⟨a, eq_ok_of_toOption found, same⟩

def lockfileSite (text : Text) : Site := ⟨lockfileAlone text, [], ⟨2025, 1, 2, 3, 4, 5, 0⟩, 1000⟩

theorem scan_longer_lodash :
    let result (list : Text) := (scan (lockfileSite namelessLockfile) topConfig (some (Watchlist.parse list)) none).result
    ∃ r r', result "lodash: 1".toList = .ok r ∧
      result (Watchlist.longer "lodash: 1".toList "left-pad: 2".toList) = .ok r' ∧
      r.findings.Sublist r'.findings ∧ r.findings.length = 1 := by
  intro result
  have evaluated : (result "lodash: 1".toList).toOption.map (·.findings.length) = some 1 := by decide +kernel
  have names : ∀ r ∈ Record.readAll (Watchlist.longer "lodash: 1".toList "left-pad: 2".toList),
      r.name.head? ≠ some ':' := by decide +kernel
  obtain ⟨r, h, one⟩ := exists_of_toOption_map evaluated
  obtain ⟨r', n, h', _, _, _, keeps, _⟩ :=
    scan_longer_iff (lockfileSite namelessLockfile) topConfig none "lodash: 1".toList "left-pad: 2".toList r
      (namesDistinct_lockfileAlone _) h
  refine ⟨r, r', h, h', keeps.2 ?_, one⟩
  intro s _ spoilt
  exact absurd spoilt (Parser.not_isSpoilt_of_names names)

theorem scan_longer_passes :
    let result (list : Text) := (scan (lockfileSite namelessLockfile) topConfig (some (Watchlist.parse list)) none).result
    ∃ r r', result "lodash: 1".toList = .ok r ∧
      result (Watchlist.longer "lodash: 1".toList ":x: 1".toList) = .ok r' ∧
      ¬ r.findings.Sublist r'.findings ∧ r.passed = false ∧ r'.passed = true := by
  intro result
  have shorter : (result "lodash: 1".toList).toOption.map (fun r => (r.findings.length, r.passed)) =
      some (1, false) := by decide +kernel
  have longer : (result (Watchlist.longer "lodash: 1".toList ":x: 1".toList)).toOption.map
      (fun r => (r.findings.length, r.passed)) = some (0, true) := by decide +kernel
  obtain ⟨r, h, found⟩ := exists_of_toOption_map shorter
  obtain ⟨r', h', lost⟩ := exists_of_toOption_map longer
  obtain ⟨one, fails⟩ := Prod.mk.inj found
  obtain ⟨none_left, passes⟩ := Prod.mk.inj lost
  refine ⟨r, r', h, h', ?_, fails, passes⟩
  intro sub
  have length := sub.length_le
  omega

end Audit

end DependencyAudit
