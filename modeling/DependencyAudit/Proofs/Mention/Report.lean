import DependencyAudit.Finding
import DependencyAudit.Watchlist.Basic
import Mathlib.Data.List.Forall2

namespace DependencyAudit

section Results

variable {ε α β : Type} {f : α → Except ε β}

theorem mapM_eq_ok {as : List α} {bs : List β} :
    as.mapM f = .ok bs ↔ List.Forall₂ (fun a b => f a = .ok b) as bs := by
  induction as generalizing bs with
  | nil =>
    rw [List.mapM_nil, List.forall₂_nil_left_iff]
    exact ⟨fun h => (Except.ok.inj h).symm, fun h => h ▸ rfl⟩
  | cons a as ih =>
    rw [List.mapM_cons, List.forall₂_cons_left_iff]
    constructor
    · intro h
      cases ha : f a with
      | error e => simp [ha, bind, Except.bind] at h
      | ok b =>
        cases has : as.mapM f with
        | error e => simp [ha, has, bind, Except.bind] at h
        | ok bs =>
          simp only [ha, has, bind, Except.bind, pure, Except.pure, Except.ok.injEq] at h
          exact ⟨b, bs, rfl, ih.1 has, h.symm⟩
    · rintro ⟨b, bs, ha, has, rfl⟩
      rw [ha, ih.2 has]
      rfl

theorem mapM_map_ok (as : List α) : (as.map (Except.ok (ε := ε))).mapM id = .ok as := by
  rw [mapM_eq_ok, List.forall₂_map_left_iff, List.forall₂_same]
  intro a _
  rfl

/-- Where all items that fail do so alike, the whole fails exactly if one item does. -/
theorem mapM_eq_error {as : List α} {e : ε} (alike : ∀ a ∈ as, ∀ e', f a = .error e' → e' = e) (e' : ε) :
    as.mapM f = .error e' ↔ e' = e ∧ ∃ a ∈ as, f a = .error e := by
  induction as with
  | nil => simp [pure, Except.pure]
  | cons a as ih =>
    have ih := ih fun b hb => alike b (List.mem_cons_of_mem a hb)
    rw [List.mapM_cons]
    cases ha : f a with
    | error d =>
      obtain rfl := alike a List.mem_cons_self d ha
      simp [bind, Except.bind, ha, eq_comm]
    | ok b =>
      cases has : as.mapM f with
      | error d => simpa [bind, Except.bind, ha, has] using ih
      | ok bs => simpa [bind, Except.bind, pure, Except.pure, ha, has] using ih

theorem forall₂_filter {R : α → β → Prop} {p : α → Bool} {q : β → Bool} (alike : ∀ a b, R a b → p a = q b)
    {as : List α} {bs : List β} (h : List.Forall₂ R as bs) : List.Forall₂ R (as.filter p) (bs.filter q) := by
  induction h with
  | nil => exact .nil
  | @cons a b as bs hab _ ih =>
    rw [List.filter_cons, List.filter_cons, alike a b hab]
    split
    · exact .cons hab ih
    · exact ih

theorem exists_of_mem_right {R : α → β → Prop} {as : List α} {bs : List β} (h : List.Forall₂ R as bs) {b : β}
    (hb : b ∈ bs) : ∃ a ∈ as, R a b := by
  induction h with
  | nil => exact absurd hb List.not_mem_nil
  | @cons a b' as bs hab _ ih =>
    rcases List.mem_cons.1 hb with rfl | hb
    · exact ⟨a, List.mem_cons_self, hab⟩
    · obtain ⟨a', ha, hr⟩ := ih hb
      exact ⟨a', List.mem_cons_of_mem a ha, hr⟩

end Results

/-- A package version that a file states, whether it is on any list or not. -/
structure Mention where
  name : Text
  version : Text
  group : Option Text
deriving DecidableEq

/-- The package version that a finding is about. -/
def Finding.mention (f : Finding) : Mention := ⟨f.name, f.version, f.group⟩

namespace Mention

def isListed (w : Watchlist) (m : Mention) : Bool := w.flags m.name m.version

def toFinding (file : Path) (source : Text) (m : Mention) : Except FindingError Finding :=
  Finding.make file m.name m.version source m.group

/-- The listed ones of the versions that a file states, as findings; one that can be none spoils the rest. -/
def report (w : Watchlist) (file : Path) (source : Text) (ms : List Mention) : Except FindingError (List Finding) :=
  (ms.filter (isListed w)).mapM (toFinding file source)

theorem toFinding_eq_ok {file : Path} {source : Text} {m : Mention} {f : Finding} :
    m.toFinding file source = .ok f ↔
      f.file = file ∧ f.name = m.name ∧ f.version = m.version ∧ f.source = source ∧ f.group = m.group := by
  rw [toFinding, Finding.make]
  constructor
  · intro h
    split at h
    · cases h
    · split at h
      · cases h
      · obtain rfl := Except.ok.inj h
        exact ⟨rfl, rfl, rfl, rfl, rfl⟩
  · rintro ⟨rfl, hn, hv, rfl, hg⟩
    rw [dif_neg (hn ▸ f.name_ne), dif_neg (hv ▸ f.version_ne)]
    congr 1
    exact Finding.ext rfl hn.symm hv.symm rfl hg.symm

theorem toFinding_eq_error {file : Path} {source : Text} {m : Mention} (h : m.version ≠ []) {e : FindingError} :
    m.toFinding file source = .error e ↔ e = .emptyName ∧ m.name = [] := by
  rw [toFinding, Finding.make]
  by_cases hn : m.name = []
  · simp [hn, eq_comm]
  · simp [hn, h]

variable {w w' : Watchlist} {file : Path} {source : Text} {ms : List Mention}

theorem report_append (ms' : List Mention) :
    report w file source (ms ++ ms') =
      (report w file source ms).bind fun fs => (report w file source ms').map (fs ++ ·) := by
  rw [report, List.filter_append, List.mapM_append]
  cases h : (ms.filter (isListed w)).mapM (toFinding file source) with
  | error e => rw [report, h]; rfl
  | ok fs =>
    rw [report, h]
    cases h' : (ms'.filter (isListed w)).mapM (toFinding file source) with
    | error e => rw [report, h']; rfl
    | ok fs' => rw [report, h']; rfl

theorem report_eq_ok {fs : List Finding} :
    report w file source ms = .ok fs ↔
      List.Forall₂ (fun m f => m.toFinding file source = .ok f) (ms.filter (isListed w)) fs :=
  mapM_eq_ok

/-- Only a listed mention without a name is refused. -/
theorem report_eq_error (h : ∀ m ∈ ms, m.version ≠ []) (e : FindingError) :
    report w file source ms = .error e ↔ e = .emptyName ∧ ∃ m ∈ ms, m.isListed w = true ∧ m.name = [] := by
  have refused (m : Mention) (hm : m ∈ ms.filter (isListed w)) (d : FindingError) :
      m.toFinding file source = .error d ↔ d = .emptyName ∧ m.name = [] :=
    toFinding_eq_error (h m (List.mem_of_mem_filter hm))
  rw [report, mapM_eq_error fun m hm d hd => ((refused m hm d).1 hd).1]
  refine and_congr_right fun _ => ?_
  constructor
  · rintro ⟨m, hm, hd⟩
    obtain ⟨mem, listed⟩ := List.mem_filter.1 hm
    exact ⟨m, mem, listed, ((refused m hm _).1 hd).2⟩
  · rintro ⟨m, mem, listed, hn⟩
    have hm := List.mem_filter.2 ⟨mem, listed⟩
    exact ⟨m, hm, (refused m hm _).2 ⟨rfl, hn⟩⟩

/-- A shorter list finds, in a file that the longer one does not fail on, those of the findings that it lists. -/
theorem report_of_longer (longer : ∀ n v, w.flags n v = true → w'.flags n v = true) {fs : List Finding}
    (h : report w' file source ms = .ok fs) :
    report w file source ms = .ok (fs.filter fun f => w.flags f.name f.version) := by
  -- What the shorter list flags is found among what the longer one flags.
  have both : ms.filter (isListed w) = (ms.filter (isListed w')).filter (isListed w) := by
    rw [List.filter_filter]
    apply List.filter_congr
    intro m _
    by_cases listed : m.isListed w = true
    · rw [listed, show m.isListed w' = true from longer _ _ listed]
      rfl
    · rw [Bool.eq_false_iff.2 listed]
      rfl
  rw [report_eq_ok, both]
  apply forall₂_filter _ (report_eq_ok.1 h)
  intro m f hf
  obtain ⟨-, hn, hv, -, -⟩ := toFinding_eq_ok.1 hf
  rw [isListed, hn, hv]

/-- The findings are about the listed mentions, in their order. -/
theorem map_mention_of_report {fs : List Finding} (h : report w file source ms = .ok fs) :
    fs.map Finding.mention = ms.filter (isListed w) := by
  have about (m : Mention) (f : Finding) (made : m.toFinding file source = .ok f) : m = f.mention := by
    obtain ⟨-, hn, hv, -, hg⟩ := toFinding_eq_ok.1 made
    rw [Finding.mention, hn, hv, hg]
  have same : List.Forall₂ (fun m f => m = f.mention) (ms.filter (isListed w)) fs := (report_eq_ok.1 h).imp about
  rw [← List.forall₂_eq_eq_eq, List.forall₂_map_left_iff]
  exact same.flip.imp fun f m eq => eq.symm

/-- Every finding goes back to a listed mention. -/
theorem exists_mention {fs : List Finding} (h : report w file source ms = .ok fs) {f : Finding} (hf : f ∈ fs) :
    ∃ m ∈ ms, m.isListed w = true ∧ m.toFinding file source = .ok f := by
  obtain ⟨m, hm, made⟩ := exists_of_mem_right (report_eq_ok.1 h) hf
  obtain ⟨mem, listed⟩ := List.mem_filter.1 hm
  exact ⟨m, mem, listed, made⟩

/-- The findings are those that the listed mentions make. -/
theorem mem_report {fs : List Finding} (h : report w file source ms = .ok fs) {f : Finding} :
    f ∈ fs ↔ ∃ m ∈ ms, m.isListed w = true ∧ m.toFinding file source = .ok f := by
  constructor
  · exact exists_mention h
  · rintro ⟨m, mem, listed, made⟩
    have kept := List.mem_filter.2 ⟨mem, listed⟩
    obtain ⟨g, hg, same⟩ := exists_of_mem_right (report_eq_ok.1 h).flip kept
    obtain rfl := Except.ok.inj (made.symm.trans same)
    exact hg

end Mention

end DependencyAudit
