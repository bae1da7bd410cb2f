import DependencyAudit.Proofs.Declaration
import Mathlib.Data.List.Count
import Mathlib.Data.Prod.Basic

namespace DependencyAudit

section Places

variable {κ α β : Type}

/-- A list goes through what stands at places, place after place. -/
def Follows (before : κ → κ → Prop) (stands : κ → α → Prop) (as : List α) : Prop :=
  ∃ marked : List (κ × α), marked.map Prod.snd = as ∧ marked.Pairwise (fun x y => before x.1 y.1) ∧
    ∀ p a, (p, a) ∈ marked ↔ stands p a

namespace Follows

variable {before : κ → κ → Prop} {stands stands' : κ → α → Prop} {as : List α}

theorem nil (nothing : ∀ p a, ¬ stands p a) : Follows before stands [] :=
  ⟨[], rfl, List.Pairwise.nil, fun p a => iff_of_false List.not_mem_nil (nothing p a)⟩

theorem congr (h : Follows before stands as) (same : ∀ p a, stands p a ↔ stands' p a) : Follows before stands' as := by
  obtain ⟨marked, all, ordered, stood⟩ := h
  exact ⟨marked, all, ordered, fun p a => (stood p a).trans (same p a)⟩

theorem pairwise_zipIdx (as : List α) : as.zipIdx.Pairwise fun x y => x.2 < y.2 := by
  have numbers : (as.zipIdx.map Prod.snd).Pairwise (· < ·) := by
    rw [List.zipIdx_map_snd]
    exact List.pairwise_lt_range'
  exact List.pairwise_map.1 numbers

theorem indexed (as : List α) : Follows Nat.lt (fun i a => as[i]? = some a) as := by
  refine ⟨as.zipIdx.map Prod.swap, ?_, List.pairwise_map.2 (pairwise_zipIdx as), ?_⟩
  · rw [List.map_map]
    exact List.zipIdx_map_fst 0 as
  · intro i a
    have swapped : (i, a) ∈ as.zipIdx.map Prod.swap ↔ (a, i) ∈ as.zipIdx :=
      List.mem_map_of_injective Prod.swap_injective (a := (a, i))
    exact swapped.trans List.mem_zipIdx_iff_getElem?

theorem filter (h : Follows before stands as) (keep : α → Bool) :
    Follows before (fun p a => stands p a ∧ keep a = true) (as.filter keep) := by
  obtain ⟨marked, rfl, ordered, stood⟩ := h
  refine ⟨marked.filter fun x => keep x.2, List.filter_map.symm, ordered.filter _, ?_⟩
  intro p a
  rw [List.mem_filter, stood]

theorem map (h : Follows before stands as) (f : α → β) :
    Follows before (fun p b => ∃ a, stands p a ∧ f a = b) (as.map f) := by
  obtain ⟨marked, rfl, ordered, stood⟩ := h
  refine ⟨marked.map fun x => (x.1, f x.2), ?_, List.pairwise_map.2 ordered, ?_⟩
  · rw [List.map_map, List.map_map]
    rfl
  · intro p b
    rw [List.mem_map]
    constructor
    · rintro ⟨⟨q, a⟩, hx, same⟩
      obtain ⟨rfl, rfl⟩ := Prod.mk.inj same
      exact ⟨a, (stood q a).1 hx, rfl⟩
    · rintro ⟨a, ha, rfl⟩
      exact ⟨(p, a), (stood p a).2 ha, rfl⟩

/-- A place in what the items of a list give is the number of an item, then a place in what that one gives. -/
theorem flatMap {f : α → List β} {stands : α → κ → β → Prop} (each : ∀ a, Follows before (stands a) (f a))
    (as : List α) :
    Follows (Prod.Lex Nat.lt before) (fun p b => ∃ a, as[p.1]? = some a ∧ stands a p.2 b) (as.flatMap f) := by
  choose marked all ordered stood using each
  refine ⟨as.zipIdx.flatMap fun x => (marked x.1).map fun y => ((x.2, y.1), y.2), ?_, ?_, ?_⟩
  · have given (x : α × Nat) : ((marked x.1).map fun y => ((x.2, y.1), y.2)).map Prod.snd = f x.1 := by
      rw [List.map_map, ← all x.1]
      rfl
    have items : as.zipIdx.map Prod.fst = as := List.zipIdx_map_fst 0 as
    rw [List.map_flatMap]
    simp only [given]
    rw [← List.flatMap_map, items]
  · refine List.pairwise_flatMap.2 ⟨?_, ?_⟩
    · intro x _
      exact List.pairwise_map.2 ((ordered x.1).imp (Prod.Lex.right x.2))
    · apply (pairwise_zipIdx as).imp
      intro x y less p hp q hq
      obtain ⟨u, -, rfl⟩ := List.mem_map.1 hp
      obtain ⟨v, -, rfl⟩ := List.mem_map.1 hq
      exact Prod.Lex.left _ _ less
  · rintro ⟨i, k⟩ b
    rw [List.mem_flatMap]
    constructor
    · rintro ⟨⟨a, j⟩, hx, hy⟩
      obtain ⟨⟨l, c⟩, here, same⟩ := List.mem_map.1 hy
      obtain ⟨place, rfl⟩ := Prod.mk.inj same
      obtain ⟨rfl, rfl⟩ := Prod.mk.inj place
      exact ⟨a, List.mem_zipIdx_iff_getElem?.1 hx, (stood a l c).1 here⟩
    · rintro ⟨a, item, here⟩
      exact ⟨(a, i), List.mem_zipIdx_iff_getElem?.2 item, List.mem_map.2 ⟨(k, b), (stood a k b).2 here, rfl⟩⟩

end Follows

/-- If one item alone of a list gives a thing, and the list has the item once, all give it as often as that one. -/
theorem count_flatMap_of_only [DecidableEq β] {as : List α} (nodup : as.Nodup) {f : α → List β} {a : α} {b : β}
    (ha : a ∈ as) (only : ∀ a' ∈ as, b ∈ f a' → a' = a) : (as.flatMap f).count b = (f a).count b := by
  induction as with
  | nil => exact absurd ha List.not_mem_nil
  | cons c as ih =>
    obtain ⟨fresh, nodup⟩ := List.nodup_cons.1 nodup
    rw [List.flatMap_cons, List.count_append]
    rcases List.mem_cons.1 ha with rfl | ha
    · have later : (as.flatMap f).count b = 0 := by
        rw [List.count_eq_zero]
        intro hb
        obtain ⟨a', ha', hb⟩ := List.mem_flatMap.1 hb
        obtain rfl := only a' (List.mem_cons_of_mem _ ha') hb
        exact fresh ha'
      rw [later, Nat.add_zero]
    · have here : (f c).count b = 0 := by
        rw [List.count_eq_zero]
        intro hb
        obtain rfl := only c List.mem_cons_self hb
        exact fresh ha
      rw [here, Nat.zero_add]
      exact ih nodup ha fun a' ha' => only a' (List.mem_cons_of_mem c ha')

end Places

namespace Manifest

/-- What may stand under the name of a group in two manifests that read alike: objects with the same names in the same
order that hold the same strings, such as equal ones, or on both sides something else or nothing. -/
inductive ReadAlike : Option Json → Option Json → Prop
  | objects {ms ms' : List (List CodePoint × Json)}
      (alike : List.Forall₂ (fun m m' => m.1 = m'.1 ∧ ∀ s, m.2 = .string s ↔ m'.2 = .string s) ms ms') :
      ReadAlike (some (.object ms)) (some (.object ms'))
  | neither {v v' : Option Json} (left : ∀ ms, v ≠ some (.object ms)) (right : ∀ ms, v' ≠ some (.object ms)) :
      ReadAlike v v'

theorem ReadAlike.refl (v : Option Json) : ReadAlike v v := by
  by_cases object : ∃ ms, v = some (.object ms)
  · obtain ⟨ms, rfl⟩ := object
    exact .objects (List.forall₂_same.2 fun m _ => ⟨rfl, fun s => Iff.rfl⟩)
  · have none_is : ∀ ms, v ≠ some (.object ms) := fun ms same => object ⟨ms, same⟩
    exact .neither none_is none_is

theorem declare_congr {group : Text} {m m' : List CodePoint × Json}
    (alike : m.1 = m'.1 ∧ ∀ s, m.2 = .string s ↔ m'.2 = .string s) : declare group m = declare group m' := by
  obtain ⟨n, v⟩ := m
  obtain ⟨n', v'⟩ := m'
  obtain ⟨rfl, strings⟩ := alike
  by_cases text : ∃ s, v = .string s
  · obtain ⟨s, rfl⟩ := text
    obtain rfl : v' = .string s := (strings s).1 rfl
    rfl
  · have nothing (u : Json) (other : ∀ s, u ≠ .string s) : declare group (n, u) = [] := by
      rw [declare]
      split
      · rename_i s _ spelt
        exact absurd spelt (other s)
      · rfl
    rw [nothing v fun s same => text ⟨s, same⟩, nothing v' fun s same => text ⟨s, (strings s).2 same⟩]

theorem declaredIn_eq_nil {manifest : Json} {group : Text} (other : ∀ ms, manifest.member? group ≠ some (.object ms)) :
    declaredIn manifest group = [] := by
  rw [declaredIn]
  split
  · rename_i ms under
    exact absurd under (other ms)
  · rfl

theorem declaredIn_of_object {manifest : Json} {group : Text} {ms : List (List CodePoint × Json)}
    (under : manifest.member? group = some (.object ms)) : declaredIn manifest group = ms.flatMap (declare group) := by
  rw [declaredIn, under]

theorem declaredIn_congr {manifest manifest' : Json} {group : Text}
    (alike : ReadAlike (manifest.member? group) (manifest'.member? group)) :
    declaredIn manifest group = declaredIn manifest' group := by
  generalize under : manifest.member? group = v at alike
  generalize under' : manifest'.member? group = v' at alike
  cases alike with
  | neither left right =>
    rw [declaredIn_eq_nil fun ms => under ▸ left ms, declaredIn_eq_nil fun ms => under' ▸ right ms]
  | @objects ms ms' alike =>
    rw [declaredIn_of_object under, declaredIn_of_object under']
    clear under under'
    induction alike with
    | nil => rfl
    | cons first _ ih => rw [List.flatMap_cons, List.flatMap_cons, declare_congr first, ih]

/-- Manifests whose groups read alike declare the same. -/
theorem declared_congr {manifest manifest' : Json}
    (alike : ∀ g ∈ groups, ReadAlike (manifest.member? g) (manifest'.member? g)) :
    declared manifest = declared manifest' := by
  have each : ∀ g ∈ groups, declaredIn manifest g = declaredIn manifest' g := fun g hg => declaredIn_congr (alike g hg)
  rw [declared, declared, List.flatMap_congr each]

/-- What a manifest states at a place, which is the number of a group, that of a member of the group and that of a
version among those that the member can stand for. -/
def StatesAt (manifest : Json) (place : Nat × Nat × Nat) (m : Mention) : Prop :=
  ∃ group members spec, groups[place.1]? = some group ∧ m.group = some group ∧
    manifest.member? group = some (.object members) ∧
    members[place.2.1]? = some (CodePoint.ofText m.name, .string spec) ∧
    (candidatesOf spec)[place.2.2]? = some m.version

theorem follows_declare (group : Text) (m : List CodePoint × Json) :
    Follows Nat.lt (fun k d => d.group = group ∧ m.1 = CodePoint.ofText d.name ∧
      ∃ spec, m.2 = .string spec ∧ (candidatesOf spec)[k]? = some d.version) (declare group m) := by
  rw [declare]
  split
  · rename_i name s named spelt
    apply ((Follows.indexed (candidatesOf s)).map fun v => Declaration.mk group name v).congr
    intro k d
    rw [CodePoint.toText?_eq_some] at named
    constructor
    · rintro ⟨v, here, rfl⟩
      exact ⟨rfl, named, s, spelt, here⟩
    · rintro ⟨rfl, named', s', spelt', here⟩
      obtain rfl := Json.string.inj (spelt.symm.trans spelt')
      obtain rfl : name = d.name := by
        rw [← Option.some.injEq, ← CodePoint.toText?_ofText, ← named, named', CodePoint.toText?_ofText]
      exact ⟨d.version, here, rfl⟩
  · rename_i other
    apply Follows.nil
    rintro k d ⟨-, named, spec, spelt, -⟩
    exact other _ spec (CodePoint.toText?_eq_some.2 named) spelt

theorem follows_declaredIn (manifest : Json) (group : Text) :
    Follows (Prod.Lex Nat.lt Nat.lt) (fun p d => d.group = group ∧ ∃ members spec,
      manifest.member? group = some (.object members) ∧
      members[p.1]? = some (CodePoint.ofText d.name, .string spec) ∧ (candidatesOf spec)[p.2]? = some d.version)
      (declaredIn manifest group) := by
  by_cases object : ∃ ms, manifest.member? group = some (.object ms)
  · obtain ⟨ms, under⟩ := object
    rw [declaredIn_of_object under]
    apply (Follows.flatMap (follows_declare group) ms).congr
    rintro ⟨j, k⟩ d
    constructor
    · rintro ⟨⟨n, v⟩, hm, rfl, rfl, spec, rfl, here⟩
      exact ⟨rfl, ms, spec, under, hm, here⟩
    · rintro ⟨rfl, members, spec, under', hm, here⟩
      obtain rfl := Json.object.inj (Option.some.inj (under.symm.trans under'))
      exact ⟨_, hm, rfl, rfl, spec, rfl, here⟩
  · have other : ∀ ms, manifest.member? group ≠ some (.object ms) := fun ms under => object ⟨ms, under⟩
    rw [declaredIn_eq_nil other]
    apply Follows.nil
    rintro p d ⟨-, members, -, under, -⟩
    exact other members under

/-- A manifest's text states its versions by group, then by member, then as a member's alternatives stand. -/
theorem follows_mentions {depth : Nat} {content : Text} {manifest : Json}
    (read : Json.read? depth content = some manifest) :
    Follows (Prod.Lex Nat.lt (Prod.Lex Nat.lt Nat.lt)) (StatesAt manifest) (mentions depth content) := by
  rw [mentions_of_read read, declared]
  apply ((Follows.flatMap (follows_declaredIn manifest) groups).map Declaration.mention).congr
  rintro ⟨i, j, k⟩ m
  constructor
  · rintro ⟨d, ⟨g, hg, rfl, members, spec, under, hm, here⟩, rfl⟩
    exact ⟨d.group, members, spec, hg, rfl, under, hm, here⟩
  · rintro ⟨g, members, spec, hg, grouped, under, hm, here⟩
    obtain ⟨name, version, group⟩ := m
    obtain rfl : group = some g := grouped
    exact ⟨⟨g, name, version⟩, ⟨g, hg, rfl, members, spec, under, hm, here⟩, rfl⟩

/-- A package has one place in a group, so that a version stands there as often as the package can stand for it. -/
theorem count_mentions {depth : Nat} {content group name version : Text} {manifest : Json} {spec : List CodePoint}
    (read : Json.read? depth content = some manifest) (grouped : group ∈ groups)
    (holds : Holds manifest group name spec) :
    (mentions depth content).count ⟨name, version, some group⟩ = (candidatesOf spec).count version := by
  obtain ⟨members, under, here⟩ := holds
  have keyed : (Json.object members).Keyed := (Json.keyed_of_read? read).member under
  have hm : (CodePoint.ofText name, .string spec) ∈ members := (Json.Keyed.mem_iff keyed).1 here
  have names : (members.map (·.1)).Nodup := keyed.nodup_names
  let d : Declaration := ⟨group, name, version⟩
  calc
    (mentions depth content).count d.mention = (declared manifest).count d := by
      rw [mentions_of_read read, List.count_map_of_injective _ _ Declaration.mention_injective]
    _ = (declaredIn manifest group).count d := by
      have apart : groups.Nodup := by decide
      refine count_flatMap_of_only apart grouped ?_
      intro g _ hd
      exact (mem_declaredIn.1 hd).1.symm
    _ = (declare group (CodePoint.ofText name, .string spec)).count d := by
      rw [declaredIn_of_object under]
      refine count_flatMap_of_only names.of_map hm ?_
      intro m hm' hd
      exact List.inj_on_of_nodup_map names hm' hm (mem_declare.1 hd).2.1
    _ = (candidatesOf spec).count version := by
      rw [declare, CodePoint.toText?_ofText]
      refine List.count_map_of_injective _ _ ?_ version
      intro v u same
      exact (Declaration.mk.inj same).2.2

/-- What a list finds in a manifest: a listed version that a package can stand for under its name in a group, as often
as it can stand for it, and all of them as they stand. -/
structure Reports (w : Watchlist) (file : Path) (manifest : Json) (fs : List Finding) : Prop where
  own : ∀ f ∈ fs, f.file = file ∧ f.source = FileKind.manifest.fileName ∧ ∃ group ∈ groups, f.group = some group
  reported_iff : ∀ group name version, ⟨name, version, some group⟩ ∈ fs.map Finding.mention ↔
    group ∈ groups ∧ ∃ spec, Holds manifest group name spec ∧ version ∈ candidatesOf spec ∧
      w.flags name version = true
  times : ∀ group ∈ groups, ∀ name spec, Holds manifest group name spec → ∀ version, w.flags name version = true →
    (fs.map Finding.mention).count ⟨name, version, some group⟩ = (candidatesOf spec).count version
  ordered : Follows (Prod.Lex Nat.lt (Prod.Lex Nat.lt Nat.lt))
    (fun place m => StatesAt manifest place m ∧ m.isListed w = true) (fs.map Finding.mention)

theorem reports_of_parse {depth : Nat} {w : Watchlist} {file : Path} {content : Text} {manifest : Json} {fs : List Finding}
    (read : Json.read? depth content = some manifest)
    (parsed : (Parser.manifest depth).parse w file content = .ok fs) : Reports w file manifest fs := by
  rw [Parser.manifest_parse] at parsed
  have about : fs.map Finding.mention = (mentions depth content).filter (Mention.isListed w) :=
    Mention.map_mention_of_report parsed
  constructor
  case own =>
    intro f hf
    obtain ⟨m, hm, -, made⟩ := Mention.exists_mention parsed hf
    obtain ⟨inFile, -, -, source, grouped⟩ := Mention.toFinding_eq_ok.1 made
    rw [grouped]
    exact ⟨inFile, source, group_of_mem_mentions hm⟩
  case reported_iff =>
    intro group name version
    rw [about, List.mem_filter, mem_mentions_iff_holds read, and_assoc, ← exists_and_right]
    simp only [and_assoc]
    rfl
  case times =>
    intro group grouped name spec holds version listed
    let m : Mention := ⟨name, version, some group⟩
    have onList : m.isListed w = true := listed
    rw [about, List.count_filter onList]
    exact count_mentions read grouped holds
  case ordered =>
    rw [about]
    exact (follows_mentions read).filter _

theorem mentions_eq_nil {depth : Nat} {content : Text} (other : ∀ ms, Json.read? depth content ≠ some (.object ms)) :
    mentions depth content = [] := by
  cases read : Json.read? depth content with
  | none => rw [mentions, read]
  | some v =>
    have memberless (name : Text) : v.member? name = none := by
      cases v with
      | object ms => exact absurd read (other ms)
      | null | bool | integer | real | string | array => rfl
    have nothing : declared v = [] := by
      rw [declared, List.flatMap_eq_nil_iff]
      intro g _
      apply declaredIn_eq_nil
      intro ms under
      cases (memberless g).symm.trans under
    rw [mentions_of_read read, nothing, List.map_nil]

/-- The groups of a manifest settle what a list finds in it, whatever else the manifest holds and wherever it holds it;
in a text that is no object nothing is found. -/
theorem parse_groups (depth : Nat) (w : Watchlist) (file : Path) (content : Text) :
    (∀ ms, Json.read? depth content = some (.object ms) →
      (∀ content' ms', Json.read? depth content' = some (.object ms') →
        (∀ g ∈ groups, ReadAlike ((Json.object ms).member? g) ((Json.object ms').member? g)) →
        (Parser.manifest depth).parse w file content = (Parser.manifest depth).parse w file content') ∧
      ∀ fs, (Parser.manifest depth).parse w file content = .ok fs → Reports w file (.object ms) fs) ∧
    ((∀ ms, Json.read? depth content ≠ some (.object ms)) →
      (Parser.manifest depth).parse w file content = .ok []) := by
  refine ⟨?_, ?_⟩
  · intro ms read
    refine ⟨?_, fun fs parsed => reports_of_parse read parsed⟩
    intro content' ms' read' alike
    have same : mentions depth content = mentions depth content' := by
      rw [mentions_of_read read, mentions_of_read read', declared_congr alike]
    rw [Parser.manifest_parse, Parser.manifest_parse]
    exact congrArg (Mention.report w file _) same
  · intro other
    have nothing : mentions depth content = [] := mentions_eq_nil other
    rw [Parser.manifest_parse, nothing]
    rfl

def lodashGroup : Json := .object [Json.member "lodash" (.ofText "^1 || 1".toList)]

def plainManifest : Text := "\x7b\"dependencies\": \x7b\"lodash\": \"^1 || 1\"\x7d\x7d".toList

/-- A manifest that has another member, a group that is no object, and the name of a package twice. -/
def busyManifest : Text := ("\x7b\"x\": [\x7b\x7d], \"peerDependencies\": null, " ++
  "\"dependencies\": \x7b\"lodash\": null, \"lodash\": \"^1 || 1\"\x7d\x7d").toList

theorem parse_groups_lodash :
    let w := Watchlist.parse (lodashList "1")
    let file : Path := ⟨.root, ["package.json".toList]⟩
    Json.read? 1000 plainManifest = some (.object [Json.member "dependencies" lodashGroup]) ∧
      Json.read? 1000 busyManifest = some (.object [Json.member "x" (.array [.object []]),
        Json.member "peerDependencies" .null, Json.member "dependencies" lodashGroup]) ∧
      (Parser.manifest 1000).parse w file plainManifest = (Parser.manifest 1000).parse w file busyManifest ∧
      (∃ fs, (Parser.manifest 1000).parse w file plainManifest = .ok fs ∧
        (fs.map Finding.mention).count ⟨"lodash".toList, "1".toList, some "dependencies".toList⟩ = 2) ∧
      (Parser.manifest 1000).parse w file "null".toList = .ok [] := by
  intro w file
  have read : Json.read? 1000 plainManifest = some (.object [Json.member "dependencies" lodashGroup]) := by cbv
  have read' : Json.read? 1000 busyManifest = some (.object [Json.member "x" (.array [.object []]),
      Json.member "peerDependencies" .null, Json.member "dependencies" lodashGroup]) := by cbv
  have noObject : ∀ ms, Json.read? 1000 "null".toList ≠ some (.object ms) := by
    intro ms same
    have null_read : Json.read? 1000 "null".toList = some .null := by cbv
    cases null_read.symm.trans same
  obtain ⟨ofGroups, reports⟩ := (parse_groups 1000 w file plainManifest).1 _ read
  refine ⟨read, read', ofGroups busyManifest _ read' ?_, ?_, (parse_groups 1000 w file "null".toList).2 noObject⟩
  · intro g hg
    simp only [groups, List.mem_cons, List.not_mem_nil, or_false] at hg
    rcases hg with rfl | rfl | rfl | rfl
    · exact .refl (some lodashGroup)
    · exact .refl none
    · refine .neither ?_ ?_
      · intro ms same
        cases same
      · intro ms same
        cases same
    · exact .refl none
  · have names : ∀ r ∈ Record.readAll (lodashList "1"), r.name.head? ≠ some ':' := by decide +kernel
    obtain ⟨fs, parsed⟩ : ∃ fs, (Parser.manifest 1000).parse w file plainManifest = .ok fs :=
      (Parser.exists_parse_eq_ok (k := .manifest)).2 (Parser.not_isSpoilt_of_names names)
    have under : (Json.object [Json.member "dependencies" lodashGroup]).member? "dependencies".toList =
        some lodashGroup := by rfl
    have here : lodashGroup.member? "lodash".toList = some (.ofText "^1 || 1".toList) := by rfl
    refine ⟨fs, parsed, ?_⟩
    rw [(reports fs parsed).times _ (by decide) _ _ ⟨_, under, here⟩ _ (by decide +kernel), candidatesOf_ofText]
    decide

end Manifest

end DependencyAudit
