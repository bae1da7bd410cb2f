import DependencyAudit.Proofs.Candidates
import DependencyAudit.Proofs.CodePoint
import DependencyAudit.Proofs.Json.Keyed
import DependencyAudit.Proofs.Mention.Refusal
import DependencyAudit.Proofs.TwoViews
import DependencyAudit.Report

namespace DependencyAudit

namespace Manifest

theorem candidatesOf_ofText (t : Text) : candidatesOf (CodePoint.ofText t) = VersionSpec.candidates t := by
  rw [candidatesOf, CodePoint.toText?_ofText]

theorem mem_declare {group : Text} {m : List CodePoint × Json} {d : Declaration} :
    d ∈ declare group m ↔ d.group = group ∧ m.1 = CodePoint.ofText d.name ∧
      ∃ spec, m.2 = .string spec ∧ d.version ∈ candidatesOf spec := by
  obtain ⟨group', name, version⟩ := d
  rw [← CodePoint.toText?_eq_some, declare]
  constructor
  · intro h
    split at h
    · rename_i n s named spelt
      obtain ⟨v, hv, same⟩ := List.mem_map.1 h
      obtain ⟨rfl, rfl, rfl⟩ := Declaration.mk.inj same
      exact ⟨rfl, named, s, spelt, hv⟩
    · exact absurd h List.not_mem_nil
  · rintro ⟨rfl, named, s, spelt, hv⟩
    dsimp only at named hv
    simp only [named, spelt]
    exact List.mem_map_of_mem hv

theorem mem_declaredIn {manifest : Json} {group : Text} {d : Declaration} :
    d ∈ declaredIn manifest group ↔ d.group = group ∧ ∃ members spec, manifest.member? group = some (.object members) ∧
      (CodePoint.ofText d.name, .string spec) ∈ members ∧ d.version ∈ candidatesOf spec := by
  rw [declaredIn]
  constructor
  · intro h
    split at h
    · rename_i members under
      obtain ⟨⟨n, v⟩, hm, h⟩ := List.mem_flatMap.1 h
      obtain ⟨rfl, rfl, spec, rfl, hv⟩ := mem_declare.1 h
      exact ⟨rfl, members, spec, under, hm, hv⟩
    · exact absurd h List.not_mem_nil
  · rintro ⟨rfl, members, spec, under, hm, hv⟩
    rw [under]
    exact List.mem_flatMap.2 ⟨_, hm, mem_declare.2 ⟨rfl, rfl, spec, rfl, hv⟩⟩

/-- A declaration goes back to a string under the package's name in an object under the name of a group. -/
theorem mem_declared {manifest : Json} {d : Declaration} :
    d ∈ declared manifest ↔ d.group ∈ groups ∧ ∃ members spec, manifest.member? d.group = some (.object members) ∧
      (CodePoint.ofText d.name, .string spec) ∈ members ∧ d.version ∈ candidatesOf spec := by
  constructor
  · intro h
    obtain ⟨group, hg, h⟩ := List.mem_flatMap.1 h
    obtain ⟨rfl, here⟩ := mem_declaredIn.1 h
    exact ⟨hg, here⟩
  · rintro ⟨hg, here⟩
    exact List.mem_flatMap.2 ⟨d.group, hg, mem_declaredIn.2 ⟨rfl, here⟩⟩

theorem group_of_mem_mentions {content : Text} {m : Mention} (h : m ∈ mentions depth content) :
    ∃ g ∈ groups, m.group = some g := by
  rw [mentions] at h
  split at h
  · exact absurd h List.not_mem_nil
  · obtain ⟨d, hd, rfl⟩ := List.mem_map.1 h
    exact ⟨d.group, (mem_declared.1 hd).1, rfl⟩

/-- What a declaration says of a package. -/
def Declaration.mention (d : Declaration) : Mention := ⟨d.name, d.version, some d.group⟩

theorem Declaration.mention_injective : Function.Injective Declaration.mention := by
  intro d e same
  obtain ⟨hn, hv, hg⟩ := Mention.mk.inj same
  obtain ⟨group, name, version⟩ := d
  obtain rfl := hn
  obtain rfl := hv
  obtain rfl := Option.some.inj hg
  rfl

theorem mentions_of_read {depth : Nat} {content : Text} {manifest : Json}
    (read : Json.read? depth content = some manifest) : mentions depth content = (declared manifest).map Declaration.mention := by
  rw [mentions, read]
  rfl

/-- Under a package's name in a group, a manifest holds a string. -/
def Holds (manifest : Json) (group name : Text) (spec : List CodePoint) : Prop :=
  ∃ members, manifest.member? group = some (.object members) ∧
    (Json.object members).member? name = some (.string spec)

/-- No name stands twice in a group that was read, so that a member is the one of its name. -/
theorem mem_mentions_iff_holds {depth : Nat} {content group name version : Text} {manifest : Json}
    (read : Json.read? depth content = some manifest) :
    ⟨name, version, some group⟩ ∈ mentions depth content ↔
      group ∈ groups ∧ ∃ spec, Holds manifest group name spec ∧ version ∈ candidatesOf spec := by
  have named {members : List (List CodePoint × Json)} {spec : List CodePoint}
      (under : manifest.member? group = some (.object members)) :
      (CodePoint.ofText name, .string spec) ∈ members ↔ (Json.object members).member? name = some (.string spec) :=
    (Json.Keyed.mem_iff ((Json.keyed_of_read? read).member under)).symm
  have declares : ⟨name, version, some group⟩ ∈ mentions depth content ↔ ⟨group, name, version⟩ ∈ declared manifest := by
    rw [mentions_of_read read]
    exact List.mem_map_of_injective Declaration.mention_injective (a := ⟨group, name, version⟩)
  rw [declares, mem_declared]
  refine and_congr_right fun _ => ?_
  constructor
  · rintro ⟨members, spec, under, hm, hv⟩
    exact ⟨spec, ⟨members, under, (named under).1 hm⟩, hv⟩
  · rintro ⟨spec, ⟨members, under, here⟩, hv⟩
    exact ⟨members, spec, under, (named under).2 here, hv⟩

/-- A manifest's text gives a package a version in one of its groups, in these very words; it is nested no deeper than
can be read. -/
def States (depth : Nat) (content group name version : Text) : Prop :=
  ∃ manifest members, Json.read? depth content = some manifest ∧ manifest.member? group = some members ∧
    members.member? name = some (.ofText version)

/-- Under the name of a package stands one version, so that nothing but its candidates is declared. -/
theorem mem_mentions_iff {depth : Nat} {content group name version v : Text}
    (stated : States depth content group name version) (grouped : group ∈ groups) :
    ⟨name, v, some group⟩ ∈ mentions depth content ↔ v ∈ VersionSpec.candidates version := by
  obtain ⟨manifest, members, read, under, here⟩ := stated
  cases members with
  | object members =>
    rw [mem_mentions_iff_holds read, ← candidatesOf_ofText]
    constructor
    · rintro ⟨-, spec, ⟨members', under', here'⟩, hv⟩
      obtain rfl := Json.object.inj (Option.some.inj (under.symm.trans under'))
      obtain rfl := Json.string.inj (Option.some.inj (here.symm.trans here'))
      exact hv
    · intro hv
      exact ⟨grouped, _, ⟨members, under, here⟩, hv⟩
  | null | bool | integer | real | string | array => cases here

/-- A listed version is found where a manifest states it in the very words of the list exactly if it is plain: bars
part it, and an operator or a mark in front of it is dropped before it is looked up. -/
theorem finds_stated_iff {depth : Nat} {list content group : Text} {r : Record} (file : Path)
    (listed : r ∈ Record.readAll list) (grouped : group ∈ groups) (stated : States depth content group r.name r.version)
    (sound : ¬ Parser.IsSpoilt depth .manifest list content) :
    ∃ fs, (Parser.manifest depth).parse (Watchlist.parse list) file content = .ok fs ∧
      ((∃ f ∈ fs, f.name = r.name ∧ f.version = r.version ∧ f.group = some group) ↔
        VersionSpec.IsPlain r.version) := by
  obtain ⟨fs, parsed⟩ : ∃ fs, (Parser.manifest depth).parse (Watchlist.parse list) file content = .ok fs :=
    Parser.exists_parse_eq_ok.2 sound
  refine ⟨fs, parsed, ?_⟩
  have listable := Record.isListable_of_mem listed
  have flagged : (Watchlist.parse list).flags r.name r.version = true := Watchlist.flags_parse.2 ⟨r, listed, rfl⟩
  rw [← VersionSpec.mem_candidates_self_iff listable.version_trimmed listable.version_ne listable.version_solid,
    ← mem_mentions_iff stated grouped]
  rw [Parser.manifest_parse] at parsed
  constructor
  · rintro ⟨f, hf, name, version, grp⟩
    obtain ⟨m, hm, -, made⟩ := Mention.exists_mention parsed hf
    obtain ⟨-, hn, hv, -, hg⟩ := Mention.toFinding_eq_ok.1 made
    obtain rfl : m = ⟨r.name, r.version, some group⟩ := by
      obtain ⟨n, v, g⟩ := m
      simp_all
    exact hm
  · intro hm
    let f : Finding := ⟨file, r.name, r.version, FileKind.manifest.fileName, some group, listable.name_ne,
      listable.version_ne⟩
    refine ⟨f, (Mention.mem_report parsed).2 ⟨_, hm, flagged, ?_⟩, rfl, rfl, rfl⟩
    exact Mention.toFinding_eq_ok.2 ⟨rfl, rfl, rfl, rfl, rfl⟩

def lodashList (version : String) : Text := ("lodash: " ++ version).toList

def lodashManifest (version : String) : Text :=
  ("\x7b\"devDependencies\": \x7b\"lodash\": \"" ++ version ++ "\"\x7d\x7d").toList

theorem states_lodashManifest {version : String} (read : Json.read? 1000 (lodashManifest version) =
      some (.object [Json.member "devDependencies" (.object [Json.member "lodash" (.ofText version.toList)])])) :
    States 1000 (lodashManifest version) "devDependencies".toList "lodash".toList version.toList := by
  let members : Json := .object [Json.member "lodash" (.ofText version.toList)]
  have under : (Json.object [Json.member "devDependencies" members]).member? "devDependencies".toList =
      some members := by rfl
  have here : members.member? "lodash".toList = some (.ofText version.toList) := by rfl
  exact ⟨_, members, read, under, here⟩

theorem finds_stated_lodash :
    let r : Record := ⟨"lodash".toList, "1.0.0".toList⟩
    r ∈ Record.readAll (lodashList "1.0.0") ∧
      States 1000 (lodashManifest "1.0.0") "devDependencies".toList r.name r.version ∧
      ∃ fs, (Parser.manifest 1000).parse (Watchlist.parse (lodashList "1.0.0")) ⟨.root, ["package.json".toList]⟩
          (lodashManifest "1.0.0") = .ok fs ∧
        ∃ f ∈ fs, f.name = r.name ∧ f.version = r.version ∧ f.group = some "devDependencies".toList := by
  intro r
  have listed : r ∈ Record.readAll (lodashList "1.0.0") := by decide +kernel
  have stated : States 1000 (lodashManifest "1.0.0") "devDependencies".toList r.name r.version :=
    states_lodashManifest (by cbv)
  have names : ∀ s ∈ Record.readAll (lodashList "1.0.0"), s.name.head? ≠ some ':' := by decide +kernel
  obtain ⟨fs, parsed, found⟩ := finds_stated_iff ⟨.root, ["package.json".toList]⟩ listed (by decide) stated
    (Parser.not_isSpoilt_of_names names)
  exact ⟨listed, stated, fs, parsed, found.2 (by decide)⟩

theorem finds_stated_not_always :
    ¬ ∀ (list content group : Text) (r : Record) (file : Path), r ∈ Record.readAll list → group ∈ groups →
      States 1000 content group r.name r.version →
        ∃ fs, (Parser.manifest 1000).parse (Watchlist.parse list) file content = .ok fs ∧
          ∃ f ∈ fs, f.name = r.name ∧ f.version = r.version ∧ f.group = some group := by
  intro always
  have stated : States 1000 (lodashManifest "v1.0.0") "devDependencies".toList "lodash".toList "v1.0.0".toList :=
    states_lodashManifest (by cbv)
  obtain ⟨fs, parsed, f, hf, -⟩ := always (lodashList "v1.0.0") (lodashManifest "v1.0.0") "devDependencies".toList
    ⟨"lodash".toList, "v1.0.0".toList⟩ ⟨.root, ["package.json".toList]⟩ (by decide) (by decide) stated
  have none_found : ((Parser.manifest 1000).parse (Watchlist.parse (lodashList "v1.0.0"))
      ⟨.root, ["package.json".toList]⟩ (lodashManifest "v1.0.0")).toOption = some [] := by decide +kernel
  rw [parsed] at none_found
  obtain rfl : fs = [] := Option.some.inj none_found
  exact List.not_mem_nil hf

end Manifest

end DependencyAudit
