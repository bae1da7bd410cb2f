import DependencyAudit.Proofs.DepthFirst
import DependencyAudit.Proofs.FirstOccurrence
import DependencyAudit.Proofs.Merging
import DependencyAudit.Proofs.Mention.Parser

namespace DependencyAudit

/-- A candidate with the text read from it. -/
structure Source where
  candidate : Candidate
  text : Text

namespace Source

/-- The candidate that a visit comes to, if its file can be opened and its bytes are the encoding of a text. -/
def ofVisit? : Visit → Option Source
  | .file path readable bytes =>
    match FileKind.ofName? path.name, FileSystem.textOf bytes with
    | some kind, .ok text => if readable && !FileSystem.pathTooLong path.text then some ⟨⟨path, kind⟩, text⟩ else none
    | _, _ => none
  | _ => none

/-- The candidates below a root that can be read, depth first. -/
def below (root : Path) : Node → List Source
  | .directory true es => (Walk.entriesVisits Walk.ignoredNames root es).filterMap ofVisit?
  | _ => []

/-- A candidate can be read below a root if a walk comes to it, it has the name of its kind, it can be opened, and
its bytes are the encoding of a text. -/
def LiesBelow (root : Path) (n : Node) (s : Source) : Prop :=
  ∃ es e bytes, n = .directory true es ∧ e ∈ es ∧
    Walk.Lies Walk.ignoredNames root e s.candidate.path true bytes ∧
    FileKind.ofName? s.candidate.path.name = some s.candidate.kind ∧
    FileSystem.pathTooLong s.candidate.path.text = false ∧ FileSystem.textOf bytes = .ok s.text

/-- What the parser for a candidate's kind finds in its text; nothing if it fails. -/
def found (depth : Nat) (w : Watchlist) (s : Source) : List Finding :=
  ((Parser.ofKind depth s.candidate.kind).parse w s.candidate.path s.text).toOption.getD []

theorem ofVisit?_eq_some {v : Visit} {s : Source} :
    ofVisit? v = some s ↔ ∃ bytes, v = .file s.candidate.path true bytes ∧
      FileKind.ofName? s.candidate.path.name = some s.candidate.kind ∧
      FileSystem.pathTooLong s.candidate.path.text = false ∧ FileSystem.textOf bytes = .ok s.text := by
  constructor
  · intro h
    cases v with
    | file path readable bytes =>
      rw [ofVisit?] at h
      split at h
      · rename_i kind text named decoded
        split at h
        · rename_i opened
          obtain ⟨rfl, short⟩ := Bool.and_eq_true_iff.1 opened
          obtain rfl := Option.some.inj h
          exact ⟨bytes, rfl, named, by simpa using short, decoded⟩
        · cases h
      · cases h
    | skippedDirectory => cases h
    | skippedEntry => cases h
  · rintro ⟨bytes, rfl, named, short, decoded⟩
    simp [ofVisit?, named, short, decoded]

theorem mem_below {root : Path} {n : Node} {s : Source} : s ∈ below root n ↔ LiesBelow root n s := by
  constructor
  · intro h
    unfold below at h
    split at h
    · rename_i es
      obtain ⟨v, hv, hs⟩ := List.mem_filterMap.1 h
      obtain ⟨bytes, rfl, named, short, decoded⟩ := ofVisit?_eq_some.1 hs
      rw [Walk.entriesVisits_eq_flatMap] at hv
      obtain ⟨e, he, hv⟩ := List.mem_flatMap.1 hv
      exact ⟨es, e, bytes, rfl, he, Walk.file_mem_entryVisits.1 hv, named, short, decoded⟩
    · exact absurd h List.not_mem_nil
  · rintro ⟨es, e, bytes, rfl, he, lies, named, short, decoded⟩
    apply List.mem_filterMap.2
    refine ⟨.file s.candidate.path true bytes, ?_, ofVisit?_eq_some.2 ⟨bytes, rfl, named, short, decoded⟩⟩
    rw [Walk.entriesVisits_eq_flatMap]
    exact List.mem_flatMap.2 ⟨e, he, Walk.file_mem_entryVisits.2 lies⟩

/-- The candidates at an entry of a directory and below it that can be read. -/
def atEntry (directory : Path) (e : Entry Node) : List Source :=
  (Walk.entryVisits Walk.ignoredNames directory e).filterMap ofVisit?

theorem below_directory (root : Path) (listable : Bool) (es : List (Entry Node)) :
    below root (.directory listable es) = if listable then es.flatMap (atEntry root) else [] := by
  cases listable with
  | true =>
    rw [below, Walk.entriesVisits_eq_flatMap, List.filterMap_flatMap]
    rfl
  | false => rfl

theorem atEntry_failing (directory : Path) (name : Name) (isBarred : Bool) (node : Node) :
    atEntry directory ⟨name, true, isBarred, node⟩ = [] := by
  rw [atEntry, Walk.entryVisits, if_pos rfl]
  rfl

theorem atEntry_file (directory : Path) (name : Name) (isBarred : Bool) (bytes : List UInt8) :
    atEntry directory ⟨name, false, isBarred, .file bytes⟩ =
      (ofVisit? (.file (directory.child name) (!isBarred) bytes)).toList := by
  rw [atEntry, Walk.entryVisits, if_neg Bool.false_ne_true, Walk.nodeVisits]
  cases h : ofVisit? (.file (directory.child name) (!isBarred) bytes) with
  | none => exact List.filterMap_cons_none h
  | some s => exact List.filterMap_cons_some h

theorem atEntry_directory (directory : Path) (name : Name) (isBarred listable : Bool) (inner : List (Entry Node)) :
    atEntry directory ⟨name, false, isBarred, .directory listable inner⟩ =
      if Walk.ignoredNames.contains name || FileSystem.pathTooLong (directory.child name).text then []
      else below (directory.child name) (.directory listable inner) := by
  rw [atEntry, Walk.entryVisits, if_neg Bool.false_ne_true, Walk.nodeVisits]
  cases Walk.ignoredNames.contains name with
  | true => rfl
  | false =>
    cases listable with
    | false => cases FileSystem.pathTooLong (directory.child name).text <;> rfl
    | true =>
      cases h : FileSystem.pathTooLong (directory.child name).text with
      | true => simp [Walk.refusal?, h, ofVisit?]
      | false => simp [Walk.refusal?, h, below]

theorem paths_sublist (vs : List Visit) :
    ((vs.filterMap ofVisit?).map fun s => s.candidate.path).Sublist (Walk.files vs) := by
  induction vs with
  | nil => exact List.Sublist.slnil
  | cons v vs ih =>
    rw [Walk.files] at ih ⊢
    cases hv : ofVisit? v with
    | none =>
      rw [List.filterMap_cons_none hv]
      exact ih.trans ((List.sublist_cons_self v vs).filterMap _)
    | some s =>
      obtain ⟨bytes, rfl, -⟩ := ofVisit?_eq_some.1 hv
      rw [List.filterMap_cons_some hv]
      exact ih.cons_cons _

theorem nodup_paths {root : Path} {n : Node} (h : n.NamesDistinct) :
    ((below root n).map fun s => s.candidate.path).Nodup := by
  unfold below
  split
  · cases h with
    | directory names inner =>
      apply List.Nodup.sublist (paths_sublist _)
      exact Walk.nodup_files_entriesVisits names fun e he => Walk.nodup_files_entryVisits (inner e he) root
  · exact List.nodup_nil

section

variable {depth : Nat} {w : Watchlist}

theorem mention_of_mem_found {s : Source} {f : Finding} (h : f ∈ s.found depth w) :
    ∃ m ∈ s.candidate.kind.mentions depth s.text, m.isListed w = true ∧
      m.toFinding s.candidate.path s.candidate.kind.fileName = .ok f := by
  rw [found, Parser.parse_eq_report] at h
  cases parsed : Mention.report w s.candidate.path s.candidate.kind.fileName
      (s.candidate.kind.mentions depth s.text) with
  | error e =>
    rw [parsed] at h
    exact absurd h List.not_mem_nil
  | ok fs =>
    rw [parsed] at h
    exact Mention.exists_mention parsed h

theorem file_of_mem_found {s : Source} {f : Finding} (h : f ∈ s.found depth w) :
    f.file = s.candidate.path := by
  obtain ⟨m, _, _, made⟩ := mention_of_mem_found h
  exact (Mention.toFinding_eq_ok.1 made).1

/-- Findings of different files are never the same find, so that each file keeps its own first ones. -/
theorem distinct_found {ss : List Source} (h : (ss.map fun s => s.candidate.path).Nodup) :
    Finding.distinct (ss.flatMap (found depth w)) =
      ss.flatMap fun s => firsts (fun f => (f.name, f.version)) (s.found depth w) := by
  -- A key holds the file, and no two candidates have one path.
  have apart : ss.Pairwise fun s t => ∀ f ∈ s.found depth w, ∀ g ∈ t.found depth w, f.key ≠ g.key := by
    rw [List.nodup_iff_pairwise_ne, List.pairwise_map] at h
    apply h.imp
    intro s t hne f hf g hg same
    apply hne
    rw [← file_of_mem_found hf, ← file_of_mem_found hg]
    exact congrArg Finding.Key.file same
  rw [Finding.distinct_eq_firsts, firsts_flatMap apart]
  congr 1
  funext s
  apply firsts_congr
  intro f hf g hg
  rw [Finding.key, Finding.key, file_of_mem_found hf, file_of_mem_found hg]
  simp

/-- A finding that is kept is one of a file. -/
theorem exists_of_mem_distinct {ss : List Source} {f : Finding}
    (h : f ∈ Finding.distinct (ss.flatMap (found depth w))) :
    ∃ s ∈ ss, f ∈ s.found depth w ∧ f.file = s.candidate.path := by
  rw [Finding.distinct_eq_firsts] at h
  obtain ⟨s, hs, hf⟩ := List.mem_flatMap.1 (mem_of_mem_firsts h)
  exact ⟨s, hs, hf, file_of_mem_found hf⟩

end

/-- A file that is left out takes all its findings with it and no others. -/
theorem flatMap_found_filter (depth : Nat) (w : Watchlist) (out : Path → Bool) (ss : List Source) :
    (ss.filter fun s => !out s.candidate.path).flatMap (found depth w) =
      (ss.flatMap (found depth w)).filter fun f => !out f.file := by
  induction ss with
  | nil => rfl
  | cons s ss ih =>
    rw [List.flatMap_cons, List.filter_append, ← ih]
    cases gone : out s.candidate.path with
    | true =>
      have none_left : (s.found depth w).filter (fun f => !out f.file) = [] := by
        apply List.filter_eq_nil_iff.2
        intro f hf
        simp [file_of_mem_found hf, gone]
      rw [none_left, List.filter_cons_of_neg (by simp [gone]), List.nil_append]
    | false =>
      have all_left : (s.found depth w).filter (fun f => !out f.file) = s.found depth w := by
        apply List.filter_eq_self.2
        intro f hf
        simp [file_of_mem_found hf, gone]
      rw [all_left, List.filter_cons_of_pos (by simp [gone]), List.flatMap_cons]

end Source

theorem FileKind.name_of_ofName? {name : Name} {kind : FileKind} (h : ofName? name = some kind) :
    name = kind.fileName := by
  rw [ofName?] at h
  split at h
  · obtain rfl := Option.some.inj h
    assumption
  · split at h
    · obtain rfl := Option.some.inj h
      assumption
    · cases h

theorem Parser.accepts_ofKind (depth : Nat) (k : FileKind) (file : Path) :
    (ofKind depth k).accepts file = decide (file.name = CodePoint.ofText k.fileName) := by
  cases k <;> rfl

namespace ParserTable

/-- A candidate goes to the parser of its kind. -/
theorem parse_standard {path : Path} {kind : FileKind} (h : FileKind.ofName? path.name = some kind) (depth : Nat)
    (w : Watchlist) (text : Text) :
    (standard depth).parse w path text = (Parser.ofKind depth kind).parse w path text := by
  have slots : (standard depth).slots = [⟨"nodejs".toList, "package".toList, Parser.ofKind depth .manifest⟩,
      ⟨"nodejs".toList, "yarn".toList, Parser.ofKind depth .lockfile⟩] := rfl
  have named : path.name = CodePoint.ofText kind.fileName := FileKind.name_of_ofName? h
  have chosen : (standard depth).parserFor? path = some (Parser.ofKind depth kind) := by
    rw [parserFor?, slotFor?, slots]
    cases kind with
    | manifest =>
      rw [List.find?_cons_of_pos (by rw [Parser.accepts_ofKind, named]; decide)]
      rfl
    | lockfile =>
      rw [List.find?_cons_of_neg (by rw [Parser.accepts_ofKind, named]; decide),
        List.find?_cons_of_pos (by rw [Parser.accepts_ofKind, named]; decide)]
      rfl
  rw [parse, chosen]

end ParserTable

namespace Audit

theorem scanFile_candidate (table : ParserTable) (w : Watchlist) (s : Submission) :
    (scanFile table w s).candidate = s.candidate := by
  rw [scanFile]
  split
  · rfl
  · split <;> rfl

theorem scanFile_readable (table : ParserTable) (w : Watchlist) (s : Submission) :
    (scanFile table w s).readable = s.content.toOption.isSome := by
  rw [scanFile]
  split
  · rename_i fault unread
    rw [unread]
    rfl
  · rename_i text read
    rw [read]
    split <;> rfl

theorem scanFile_findings (table : ParserTable) (w : Watchlist) (s : Submission) :
    (scanFile table w s).findings =
      (s.content.toOption.map fun text => (table.parse w s.candidate.path text).toOption.getD []).getD [] := by
  rw [scanFile]
  split
  · rename_i fault unread
    rw [unread]
    rfl
  · rename_i text read
    rw [read]
    split
    · rename_i refused
      simp [Except.toOption, refused]
    · rename_i found parsed
      simp [Except.toOption, parsed]

theorem ofVisit?_file {path : Path} {kind : FileKind} (h : FileKind.ofName? path.name = some kind) (readable : Bool)
    (bytes : List UInt8) :
    Source.ofVisit? (.file path readable bytes) =
      (Submission.content ⟨⟨path, kind⟩, readable, bytes⟩).toOption.map fun text => ⟨⟨path, kind⟩, text⟩ := by
  rw [Source.ofVisit?, h, Submission.content]
  cases FileSystem.pathTooLong path.text <;> cases readable <;> cases FileSystem.textOf bytes <;> rfl

/-- The candidate with its text, if it can be read. -/
def Submission.source? (s : Submission) : Option Source := s.content.toOption.map fun text => ⟨s.candidate, text⟩

theorem filterMap_submissions (vs : List Visit) :
    (submissions vs).filterMap Submission.source? = vs.filterMap Source.ofVisit? := by
  rw [submissions, List.filterMap_filterMap]
  congr 1
  funext v
  cases v with
  | skippedDirectory => rfl
  | skippedEntry => rfl
  | file path readable bytes =>
    cases hk : FileKind.ofName? path.name with
    | none => simp [Candidate.ofPath?, Source.ofVisit?, hk]
    | some kind => simp [Candidate.ofPath?, Submission.source?, hk, ofVisit?_file hk]

/-- The files that a scan reads and parses are those that can be read, with what their parser finds. -/
theorem results_eq (depth : Nat) (w : Watchlist) (vs : List Visit) :
    let results := (submissions vs).map (scanFile (ParserTable.standard depth) w)
    let read := vs.filterMap Source.ofVisit?
    (results.filter (·.readable)).map (·.candidate) = read.map (·.candidate) ∧
      results.flatMap (·.findings) = read.flatMap (Source.found depth w) := by
  intro results read
  induction vs with
  | nil => exact ⟨rfl, rfl⟩
  | cons v vs ih =>
    obtain ⟨scanned, findings⟩ := ih
    cases v with
    | skippedDirectory => exact ⟨scanned, findings⟩
    | skippedEntry => exact ⟨scanned, findings⟩
    | file path readable bytes =>
      cases hk : FileKind.ofName? path.name with
      | none =>
        have unsubmitted : submissions (.file path readable bytes :: vs) = submissions vs := by
          simp [submissions, Candidate.ofPath?, hk]
        have unread : Source.ofVisit? (.file path readable bytes) = none := by
          simp [Source.ofVisit?, hk]
        simp only [results, read, unsubmitted, List.filterMap_cons_none unread]
        exact ⟨scanned, findings⟩
      | some kind =>
        let s : Submission := ⟨⟨path, kind⟩, readable, bytes⟩
        have submitted : submissions (.file path readable bytes :: vs) = s :: submissions vs := by
          simp [submissions, Candidate.ofPath?, hk, s]
        have visited := ofVisit?_file hk readable bytes
        cases content : s.content with
        | error fault =>
          have unread : Source.ofVisit? (.file path readable bytes) = none := by
            rw [visited, show Submission.content ⟨⟨path, kind⟩, readable, bytes⟩ = _ from content]
            rfl
          simp only [results, read, submitted, List.map_cons, List.flatMap_cons, List.filter_cons,
            scanFile_readable, scanFile_findings, content, List.filterMap_cons_none unread]
          exact ⟨scanned, findings⟩
        | ok text =>
          have isRead : Source.ofVisit? (.file path readable bytes) = some ⟨⟨path, kind⟩, text⟩ := by
            rw [visited, show Submission.content ⟨⟨path, kind⟩, readable, bytes⟩ = _ from content]
            rfl
          have parsed := ParserTable.parse_standard hk depth w text
          simp only [results, read, submitted, List.map_cons, List.flatMap_cons, List.filter_cons,
            scanFile_readable, scanFile_findings, content, List.filterMap_cons_some isRead]
          refine ⟨?_, ?_⟩
          · exact congrArg₂ List.cons (scanFile_candidate ..) scanned
          · rw [findings]
            congr 1
            exact congrArg (fun r => Except.toOption r |>.getD []) parsed

/-- A merge of findings at hand keeps the first of every key. -/
theorem assemble_eq (w : Watchlist) (root : Path) (stamp : Text) (results : List FileResult) :
    (assemble w root stamp results).1 = Report.ofParts w root (Finding.distinct (results.flatMap (·.findings)))
      ((results.filter (·.readable)).map (·.candidate)) stamp := by
  have merged := Collector.merge_found (ε := Empty) (Collector.start w) (results.map (·.findings))
  rw [List.map_map, ← List.flatMap_def] at merged
  simp only [assemble]
  rw [show ((Collector.start w).merge (results.map fun r => r.findings.map .ok)).result = _ from merged]

end Audit

end DependencyAudit
