import DependencyAudit.Proofs.Shape

namespace DependencyAudit

namespace Node

section Edit

variable {name : Name} {f : Option (Entry Node) → Entry Node}

theorem find?_editEntries (fresh : (f none).name = name) (kept : ∀ e, e.name = name → (f (some e)).name = name)
    (es : List (Entry Node)) (a : Name) :
    (editEntries name f es).find? (·.name = a) =
      if a = name then some (f (es.find? (·.name = name))) else es.find? (·.name = a) := by
  induction es with
  | nil =>
    by_cases own : a = name
    · simp [editEntries, fresh, own]
    · simp [editEntries, fresh, own, Ne.symm own]
  | cons e es ih =>
    by_cases here : e.name = name
    · have renamed := kept e here
      by_cases own : a = name
      · simp [editEntries, here, renamed, own]
      · simp [editEntries, here, renamed, own, Ne.symm own]
    · by_cases own : a = name
      · subst own
        simp [editEntries, here, ih]
      · simp [editEntries, here, own, ih, List.find?_cons]

theorem child?_edit_singleton (fresh : (f none).name = name) (kept : ∀ e, e.name = name → (f (some e)).name = name)
    (listable : Bool) (es : List (Entry Node)) (a : Name) :
    (edit [name] f (.directory listable es)).child? a =
      if a = name then some (f (es.find? (·.name = name))).node else (Node.directory listable es).child? a := by
  rw [edit, child?, entries, find?_editEntries fresh kept]
  split <;> rfl

/-- Deeper edits go through what stands under the first name. -/
theorem child?_edit_cons {names : List Name} {k : Node} (deeper : names ≠ []) {listable : Bool} {es : List (Entry Node)}
    (h : (Node.directory listable es).child? name = some k) (f : Option (Entry Node) → Entry Node) (a : Name) :
    (edit (name :: names) f (.directory listable es)).child? a =
      if a = name then some (edit names f k) else (Node.directory listable es).child? a := by
  obtain ⟨next, rest, rfl⟩ := List.exists_cons_of_ne_nil deeper
  obtain ⟨e, found, rfl⟩ := Option.map_eq_some_iff.1 h
  have found : es.find? (·.name = name) = some e := found
  rw [edit, child?, entries, find?_editEntries]
  · rw [found]
    split <;> rfl
  · rfl
  · exact fun _ same => same

theorem at?_of_leaf {n : Node} {names : List Name} (h : n.shape = .leaf) (below : names ≠ []) : n.at? names = none := by
  obtain ⟨name, rest, rfl⟩ := List.exists_cons_of_ne_nil below
  cases n with
  | file | special => rfl
  | directory | link => cases h

theorem shape_edit (names : List Name) (f : Option (Entry Node) → Entry Node) {n : Node} (h : n.shape = .directory) :
    (edit names f n).shape = .directory := by
  cases n with
  | directory listable es =>
    unfold edit
    split
    · rfl
    · rfl
    · exact h
  | file | link | special => cases h

theorem at?_cons (n : Node) (name : Name) (names : List Name) :
    n.at? (name :: names) = (n.child? name).bind fun m => m.at? names := List.foldlM_cons

end Edit

section Put

variable {name : Name} {f : Option (Entry Node) → Entry Node} (fresh : (f none).name = name)
  (kept : ∀ e, e.name = name → (f (some e)).name = name)

include fresh kept

/-- What is put under a name of a directory is there, and nothing else has changed its shape, if there was nothing
that could have anything below it. -/
theorem shape_at?_edit (put : ∀ e, (f e).node.shape = .leaf) {n directory : Node} {below : List Name}
    (h : n.at? below = some directory) (isDirectory : directory.shape = .directory)
    (old : ∀ m, directory.child? name = some m → m.shape = .leaf) (names : List Name) :
    ((edit (below ++ [name]) f n).at? names).map shape =
      if names = below ++ [name] then some .leaf else (n.at? names).map shape := by
  induction below generalizing n names with
  | nil =>
    obtain rfl : n = directory := Option.some.inj h
    cases n with
    | directory listable es =>
      cases names with
      | nil => rfl
      | cons a names =>
        rw [List.nil_append, at?_cons, at?_cons, child?_edit_singleton fresh kept]
        by_cases own : a = name
        · subst own
          rw [if_pos rfl, Option.bind_some]
          by_cases here : names = []
          · subst here
            rw [if_pos rfl]
            exact congrArg some (put _)
          · rw [at?_of_leaf (put _) here, if_neg (by simpa using here)]
            cases found : (Node.directory listable es).child? a with
            | none => rfl
            | some m => rw [Option.bind_some, at?_of_leaf (old m found) here]
        · rw [if_neg own, if_neg (by simp [own])]
    | file | link | special => cases isDirectory
  | cons b below ih =>
    rw [at?_cons] at h
    obtain ⟨k, hk, deeper⟩ := Option.bind_eq_some_iff.1 h
    cases n with
    | directory listable es =>
      cases names with
      | nil => rw [List.cons_append, if_neg (by simp)]; exact congrArg some (shape_edit _ f rfl)
      | cons a names =>
        rw [List.cons_append, at?_cons, at?_cons, child?_edit_cons (by simp) hk]
        by_cases own : a = b
        · subst own
          rw [if_pos rfl, Option.bind_some, ih deeper, hk, Option.bind_some]
          simp
        · rw [if_neg own, if_neg (by simp [own])]
    | file | link | special => cases hk

theorem at?_edit {n directory : Node} {below : List Name} (h : n.at? below = some directory)
    (isDirectory : directory.shape = .directory) :
    ∃ e, (edit (below ++ [name]) f n).at? (below ++ [name]) = some (f e).node := by
  induction below generalizing n with
  | nil =>
    obtain rfl : n = directory := Option.some.inj h
    cases n with
    | directory listable es =>
      refine ⟨es.find? (·.name = name), ?_⟩
      rw [List.nil_append, at?_cons, child?_edit_singleton fresh kept, if_pos rfl]
      rfl
    | file | link | special => cases isDirectory
  | cons b below ih =>
    rw [at?_cons] at h
    obtain ⟨k, hk, deeper⟩ := Option.bind_eq_some_iff.1 h
    cases n with
    | directory listable es =>
      obtain ⟨e, he⟩ := ih deeper
      refine ⟨e, ?_⟩
      rw [List.cons_append, at?_cons, child?_edit_cons (by simp) hk, if_pos rfl]
      exact he
    | file | link | special => cases hk

end Put

end Node

namespace FileSystem

/-- A file tree after a file has come to a place, or has been written there: nothing else has changed its shape. -/
structure Puts (fs fs' : FileSystem) (place : List Name) (name : Name) : Prop where
  base : fs'.base = fs.base
  here : fs'.here = fs.here
  inside : fs.base.isPrefixOf place = true
  old : ∀ shape, fs.shapeAt (place ++ [name]) = some shape → shape = .leaf
  shapes : ∀ q, fs'.shapeAt q = if q = place ++ [name] then some .leaf else fs.shapeAt q

namespace Puts

variable {fs fs' : FileSystem} {place : List Name} {name : Name} (h : fs.Puts fs' place name)

include h

theorem directoryAt {q : List Name} {d : Node} (hd : fs.directoryAt q = .ok d) :
    q ≠ place ++ [name] ∧ ∃ d', fs'.directoryAt q = .ok d' ∧
      ∀ n, q ++ [n] ≠ place ++ [name] → (d'.child? n).map Node.shape = (d.child? n).map Node.shape := by
  obtain ⟨stands, directory⟩ := directoryAt_eq_ok.1 hd
  have shape : fs.shapeAt q = some .directory := by rw [shapeAt, stands, Option.map_some, directory]
  have other : q ≠ place ++ [name] := by
    rintro rfl
    cases h.old _ shape
  have shape' : fs'.shapeAt q = some .directory := by rw [h.shapes, if_neg other, shape]
  obtain ⟨d', stands', directory'⟩ := Option.map_eq_some_iff.1 shape'
  have hd' : fs'.directoryAt q = .ok d' := directoryAt_eq_ok.2 ⟨stands', directory'⟩
  refine ⟨other, d', hd', ?_⟩
  intro n elsewhere
  rw [child?_of_directoryAt hd, child?_of_directoryAt hd', h.base]
  split
  · have same := h.shapes (q ++ [n])
    rw [if_neg elsewhere] at same
    exact same
  · rfl

theorem behindLink (q : List Name) (target : Name) (rest : List Name) :
    fs'.behindLink q target rest = fs.behindLink q target rest := by
  simp only [FileSystem.behindLink, FileSystem.entrance, h.base]

/-- What stood at the name had nothing below it, so that a way that has come to the name ends there. -/
theorem follow_name {again again' : List Name → List Name → Except OsFault Target} {rest : List Name} {d d' : Node}
    {found : Option Node} (plain : Plain name) (hd : fs.directoryAt place = .ok d)
    (hd' : fs'.directoryAt place = .ok d')
    (leads : fs.follow again place (name :: rest) = .ok (.entry place name found)) :
    (fs'.follow again' place (name :: rest)).bind Target.place? = .ok (place ++ [name]) := by
  have child : d.child? name = fs.at? (place ++ [name]) := by rw [child?_of_directoryAt hd, if_pos h.inside]
  have old : ∀ m, fs.at? (place ++ [name]) = some m → m.shape = .leaf := by
    intro m hm
    exact h.old _ (by rw [shapeAt, hm, Option.map_some])
  have new : (d'.child? name).map Node.shape = some .leaf := by
    rw [child?_of_directoryAt hd', h.base, if_pos h.inside]
    exact (h.shapes _).trans (if_pos rfl)
  have no_link : ∀ target, d.child? name ≠ some (.link target) := by
    intro target ht
    cases old _ (child ▸ ht)
  have no_link' : ∀ target, d'.child? name ≠ some (.link target) := by
    intro target ht
    rw [ht] at new
    cases new
  have there : (d'.child? name).isNone = false := by
    cases hm : d'.child? name with
    | none =>
      rw [hm] at new
      cases new
    | some m => rfl
  rw [follow_child hd plain no_link, child] at leads
  rw [follow_child hd' plain no_link']
  by_cases last : rest = []
  · rw [if_pos last]
    simp only [Except.bind, place?_entry, there, Bool.false_eq_true, if_false]
  · obtain ⟨next, more, rfl⟩ := List.exists_cons_of_ne_nil last
    rw [if_neg last] at leads
    cases stands : fs.at? (place ++ [name]) with
    | none =>
      rw [stands] at leads
      cases leads
    | some m =>
      have no_directory := directoryAt_eq_notDirectory stands (by rw [old m stands]; simp)
      rw [stands, follow_error no_directory] at leads
      cases leads

section Follow

variable {again again' : List Name → List Name → Except OsFault Target}
  (agree : ∀ q names found, again q names = .ok (.entry place name found) →
    (again' q names).bind Target.place? = .ok (place ++ [name]))
  {q : List Name} {found : Option Node}

include agree

/-- Past any other name the way goes on as before. -/
theorem follow_elsewhere {n : Name} {rest : List Name} {d : Node} (plain : Plain n) (hd : fs.directoryAt q = .ok d)
    (elsewhere : q ++ [n] ≠ place ++ [name])
    (later : fs.follow again (q ++ [n]) rest = .ok (.entry place name found) →
      (fs'.follow again' (q ++ [n]) rest).bind Target.place? = .ok (place ++ [name]))
    (leads : fs.follow again q (n :: rest) = .ok (.entry place name found)) :
    (fs'.follow again' q (n :: rest)).bind Target.place? = .ok (place ++ [name]) := by
  obtain ⟨-, d', hd', shapes⟩ := h.directoryAt hd
  have same := shapes n elsewhere
  by_cases link : ∃ target, d.child? n = some (.link target)
  · obtain ⟨target, link⟩ := link
    have link' : d'.child? n = some (.link target) := by
      rwa [← Node.map_shape_eq_link, same, Node.map_shape_eq_link]
    rw [follow_link hd plain link] at leads
    rw [follow_link hd' plain link', h.behindLink]
    exact agree _ _ _ leads
  · have no_link : ∀ target, d.child? n ≠ some (.link target) := fun t ht => link ⟨t, ht⟩
    have no_link' : ∀ target, d'.child? n ≠ some (.link target) := by
      intro t ht
      apply no_link t
      rwa [← Node.map_shape_eq_link, ← same, Node.map_shape_eq_link]
    rw [follow_child hd plain no_link] at leads
    rw [follow_child hd' plain no_link', Node.isNone_eq_of_shape same]
    by_cases last : rest = []
    · rw [if_pos last] at leads
      obtain ⟨rfl, rfl, -⟩ := Target.entry.inj (Except.ok.inj leads)
      exact absurd rfl elsewhere
    · rw [if_neg last] at leads ⊢
      split at leads
      · cases leads
      · rename_i there
        rw [if_neg there]
        exact later leads

/-- A way to the name where the file was to be put leads to the file now. -/
theorem follow {names : List Name} (leads : fs.follow again q names = .ok (.entry place name found)) :
    (fs'.follow again' q names).bind Target.place? = .ok (place ++ [name]) := by
  induction names generalizing q with
  | nil => cases leads
  | cons n rest ih =>
    cases hd : fs.directoryAt q with
    | error fault =>
      rw [follow_error hd] at leads
      cases leads
    | ok d =>
      obtain ⟨-, d', hd', -⟩ := h.directoryAt hd
      by_cases dotted : n = Path.dot
      · rw [dotted, follow_dot hd] at leads
        rw [dotted, follow_dot hd']
        exact ih leads
      by_cases up : n = Path.dotDot
      · rw [up, follow_dotDot hd] at leads
        rw [up, follow_dotDot hd']
        exact ih leads
      by_cases long : tooLong n = true
      · rw [follow_tooLong hd dotted up long] at leads
        cases leads
      have plain : Plain n := ⟨dotted, up, Bool.eq_false_iff.2 long⟩
      by_cases here : q ++ [n] = place ++ [name]
      · obtain ⟨same_place, same_name⟩ := List.append_inj' here rfl
        obtain rfl : n = name := (List.cons.inj same_name).1
        subst same_place
        exact h.follow_name plain hd hd' leads
      · exact h.follow_elsewhere agree plain hd here ih leads

end Follow

theorem reach (budget : Nat) {q names : List Name} {found : Option Node}
    (leads : fs.reach budget q names = .ok (.entry place name found)) :
    (fs'.reach budget q names).bind Target.place? = .ok (place ++ [name]) := by
  induction budget generalizing q names found with
  | zero =>
    refine h.follow ?_ leads
    intro q names found again
    cases again
  | succ budget ih => exact h.follow (fun q names found again => ih again) leads

theorem placeOf {t : Name} {found : Option Node} (leads : fs.target t = .ok (.entry place name found)) :
    fs'.placeOf t = .ok (place ++ [name]) := by
  rw [FileSystem.placeOf]
  rw [target] at leads ⊢
  split at leads
  · cases leads
  · rename_i short
    rw [if_neg short]
    split at leads
    · cases leads
    · rename_i given
      rw [if_neg given]
      simp only [FileSystem.entrance, h.base, h.here] at leads ⊢
      exact h.reach _ leads

end Puts

section Write

variable {fs fs' : FileSystem} {place : List Name} {name : Name} {found : Option Node}

theorem follow_eq_entry {again : List Name → List Name → Except OsFault Target} {q names : List Name}
    (further : ∀ q names, again q names = .ok (.entry place name found) →
      ∃ d, fs.directoryAt place = .ok d ∧ d.child? name = found ∧ ∀ target, found ≠ some (.link target))
    (leads : fs.follow again q names = .ok (.entry place name found)) :
    ∃ d, fs.directoryAt place = .ok d ∧ d.child? name = found ∧ ∀ target, found ≠ some (.link target) := by
  induction names generalizing q with
  | nil => cases leads
  | cons n rest ih =>
    cases hd : fs.directoryAt q with
    | error fault =>
      rw [follow_error hd] at leads
      cases leads
    | ok d =>
      by_cases dotted : n = Path.dot
      · rw [dotted, follow_dot hd] at leads
        exact ih leads
      by_cases up : n = Path.dotDot
      · rw [up, follow_dotDot hd] at leads
        exact ih leads
      by_cases long : tooLong n = true
      · rw [follow_tooLong hd dotted up long] at leads
        cases leads
      have plain : Plain n := ⟨dotted, up, Bool.eq_false_iff.2 long⟩
      by_cases link : ∃ target, d.child? n = some (.link target)
      · obtain ⟨target, link⟩ := link
        rw [follow_link hd plain link] at leads
        exact further _ _ leads
      · have no_link : ∀ target, d.child? n ≠ some (.link target) := fun t ht => link ⟨t, ht⟩
        rw [follow_child hd plain no_link] at leads
        split at leads
        · obtain ⟨rfl, rfl, rfl⟩ := Target.entry.inj (Except.ok.inj leads)
          exact ⟨d, hd, rfl, no_link⟩
        · split at leads
          · cases leads
          · exact ih leads

/-- Behind the last link a path names an entry of a directory, which is no link. -/
theorem target_eq_entry {t : Name} (leads : fs.target t = .ok (.entry place name found)) :
    ∃ d, fs.directoryAt place = .ok d ∧ d.child? name = found ∧ ∀ target, found ≠ some (.link target) := by
  have reach (budget : Nat) (q names : List Name) (h : fs.reach budget q names = .ok (.entry place name found)) :
      ∃ d, fs.directoryAt place = .ok d ∧ d.child? name = found ∧ ∀ target, found ≠ some (.link target) := by
    induction budget generalizing q names with
    | zero =>
      refine follow_eq_entry ?_ h
      intro q names again
      cases again
    | succ budget ih => exact follow_eq_entry ih h
  rw [target] at leads
  split at leads
  · cases leads
  · split at leads
    · cases leads
    · exact reach _ _ _ leads

/-- A file that is put under a name of a directory, where nothing or another file was, changes no other shape. -/
theorem puts_of_edit {below : List Name} {d : Node} {bytes : List UInt8} {put : Option (Entry Node) → Entry Node}
    (fresh : (put none).name = name) (kept : ∀ e, e.name = name → (put (some e)).name = name)
    (file : ∀ e, (put e).node = .file bytes) (inside : fs.base.isPrefixOf? place = some below)
    (hd : fs.directoryAt place = .ok d) (leaf : ∀ m, d.child? name = some m → m.shape = .leaf) :
    fs.Puts { fs with tree := fs.tree.edit (below ++ [name]) put } place name ∧
      ({ fs with tree := fs.tree.edit (below ++ [name]) put } : FileSystem).at? (place ++ [name]) =
        some (.file bytes) := by
  have whole : fs.base ++ below = place := List.isPrefixOf?_eq_some_iff_append_eq.1 inside
  have starts : fs.base.isPrefixOf place = true := by
    rw [List.isPrefixOf_iff_prefix, ← whole]
    exact List.prefix_append ..
  obtain ⟨stands, directory⟩ := directoryAt_eq_ok.1 hd
  rw [at?, inside] at stands
  have stands : fs.tree.at? below = some d := stands
  have entry : fs.at? (place ++ [name]) = d.child? name := by
    rw [child?_of_directoryAt hd, if_pos starts]
  have relative (q b : List Name) (hb : fs.base.isPrefixOf? q = some b) :
      b = below ++ [name] ↔ q = place ++ [name] := by
    have hq : fs.base ++ b = q := List.isPrefixOf?_eq_some_iff_append_eq.1 hb
    rw [← hq, ← whole, List.append_assoc, List.append_cancel_left_eq]
  refine ⟨⟨rfl, rfl, starts, ?_, ?_⟩, ?_⟩
  · intro shape hs
    rw [shapeAt, entry] at hs
    obtain ⟨m, hm, rfl⟩ := Option.map_eq_some_iff.1 hs
    exact leaf m hm
  · intro q
    rw [shapeAt, shapeAt, at?, at?]
    cases hb : fs.base.isPrefixOf? q with
    | some b =>
      simp only [← relative q b hb]
      exact Node.shape_at?_edit fresh kept (fun e => by rw [file]; rfl) stands directory leaf b
    | none =>
      have elsewhere : q ≠ place ++ [name] := by
        rintro rfl
        rw [← whole, List.append_assoc, List.isPrefixOf?_eq_some_iff_append_eq.2 rfl] at hb
        cases hb
      rw [if_neg elsewhere]
  · have there : fs.base.isPrefixOf? (place ++ [name]) = some (below ++ [name]) := by
      rw [List.isPrefixOf?_eq_some_iff_append_eq, ← whole, List.append_assoc]
    rw [at?]
    simp only [there]
    obtain ⟨e, standing⟩ := Node.at?_edit fresh kept stands directory
    rw [file] at standing
    exact standing

/-- What opening a path for writing has come to: an entry that is no directory, at which a file can be put. -/
structure Opening.IsAt (o : Opening) (fs : FileSystem) (t : Name) : Prop where
  leads : fs.target t = .ok (.entry o.place o.name o.found)
  no_directory : ∀ n, o.found = some n → n.isDirectory = false
  no_slash : t.getLast? ≠ some Name.slash
  inside : fs.base.isPrefixOf o.place = true

theorem isAt_of_openToWrite {t : Name} {o : Opening} (h : fs.openToWrite t = .ok o) : o.IsAt fs t := by
  rw [openToWrite] at h
  split at h
  · cases h
  · cases h
  rename_i place name found leads
  split at h
  · cases h
  rename_i free
  split at h
  · cases h
  split at h
  · rename_i inside
    obtain rfl := Except.ok.inj h
    obtain ⟨no_directory, no_slash⟩ := not_or.1 free
    refine ⟨leads, ?_, no_slash, inside⟩
    rintro n rfl
    simpa using no_directory
  · cases h

namespace Opening.IsAt

variable {t : Name} {o : Opening} (h : o.IsAt fs t)

include h

theorem at?_eq : fs.at? (o.place ++ [o.name]) = o.found := by
  obtain ⟨d, hd, child, -⟩ := target_eq_entry h.leads
  rw [← child, child?_of_directoryAt hd, if_pos h.inside]

/-- What stands at the path is what was found there. -/
theorem stat_eq {n : Node} : fs.stat t = .ok n ↔ o.found = some n := by
  have standing : fs.standingAt t (o.place ++ [o.name]) = .ok n ↔ o.found = some n := by
    rw [standingAt_eq_ok, h.at?_eq]
    exact and_iff_left fun slash => absurd slash h.no_slash
  rw [stat, placeOf, h.leads]
  simp only [Except.bind, place?_entry]
  cases found : o.found with
  | none => simp
  | some m => simpa [found] using standing

theorem puts (bytes : List UInt8) : fs.Puts (fs.put o.place o.name bytes) o.place o.name ∧
    (fs.put o.place o.name bytes).at? (o.place ++ [o.name]) = some (.file bytes) := by
  obtain ⟨d, hd, child, no_link⟩ := target_eq_entry h.leads
  have leaf : ∀ m, d.child? o.name = some m → m.shape = .leaf := by
    intro m hm
    have found := child.symm.trans hm
    cases m with
    | file | special => rfl
    | directory listable es => cases h.no_directory _ found
    | link target => exact absurd found (no_link target)
  obtain ⟨below, whole⟩ := List.isPrefixOf_iff_prefix.1 h.inside
  have inside : fs.base.isPrefixOf? o.place = some below := List.isPrefixOf?_eq_some_iff_append_eq.2 whole
  have drop : o.place.drop fs.base.length = below := by rw [← whole, List.drop_left]
  rw [put, drop]
  exact puts_of_edit rfl (fun _ same => same) (fun e => by cases e <;> rfl) inside hd leaf

/-- A file that has been put at the path stands there. -/
theorem stat_put (bytes : List UInt8) : (fs.put o.place o.name bytes).stat t = .ok (.file bytes) := by
  obtain ⟨puts, there⟩ := h.puts bytes
  exact stat_eq_ok.2 ⟨_, puts.placeOf h.leads, standingAt_eq_ok.2 ⟨there, fun slash => absurd slash h.no_slash⟩⟩

end Opening.IsAt

section Stored

variable {t : Name} {bytes : List UInt8}

theorem writeFile_of_null (null : Name.null ∈ t) : fs.writeFile t bytes = ⟨fs, [], some .nullByte⟩ :=
  if_pos (List.contains_iff_mem.2 null)

theorem writeFile_of_shut (clean : Name.null ∉ t) {e : OsFault} (shut : fs.openToWrite t = .error e) :
    fs.writeFile t bytes = ⟨fs, [], some (.os ⟨e, some t⟩)⟩ := by
  rw [writeFile, if_neg (mt List.contains_iff_mem.1 clean), shut]

theorem writeFile_of_open (clean : Name.null ∉ t) {o : Opening} (opened : fs.openToWrite t = .ok o) :
    fs.writeFile t bytes =
      ⟨if o.found.any (·.isSpecial) then fs
        else fs.put o.place o.name (taken (fs.denials.fill (o.place ++ [o.name])) bytes).1,
        (taken (fs.denials.fill (o.place ++ [o.name])) bytes).1,
        (taken (fs.denials.fill (o.place ++ [o.name])) bytes).2.map fun e => .os ⟨e, none⟩⟩ := by
  rw [writeFile, if_neg (mt List.contains_iff_mem.1 clean), opened]

/-- A path leads to something that keeps nothing of what is written to it. -/
def LeadsToSpecial (fs : FileSystem) (t : Name) : Prop := ∃ content, fs.stat t = .ok (.special content)

theorem Opening.IsAt.leadsToSpecial_iff {o : Opening} (h : o.IsAt fs t) :
    fs.LeadsToSpecial t ↔ o.found.any (·.isSpecial) = true := by
  simp only [LeadsToSpecial, h.stat_eq]
  cases o.found with
  | none => simp
  | some n => cases n <;> simp [Node.isSpecial]

theorem fst_taken {limit : Option (Nat × OsFault)} (whole : (taken limit bytes).2 = none) :
    (taken limit bytes).1 = bytes := by
  unfold taken at whole ⊢
  split at whole
  · split at whole
    · cases whole
    · rename_i fits
      simp [fits]
  · rfl

section Written

variable (written : (fs.writeFile t bytes).fault = none)

include written

/-- What has been written to its end went to an opening that took all of it. -/
theorem exists_opening : ∃ o : Opening, o.IsAt fs t ∧ fs.writeFile t bytes =
    ⟨if o.found.any (·.isSpecial) then fs else fs.put o.place o.name bytes, bytes, none⟩ := by
  by_cases null : Name.null ∈ t
  · rw [writeFile_of_null null] at written
    cases written
  cases opened : fs.openToWrite t with
  | error e =>
    rw [writeFile_of_shut null opened] at written
    cases written
  | ok o =>
    refine ⟨o, isAt_of_openToWrite opened, ?_⟩
    rw [writeFile_of_open null opened] at written ⊢
    have whole := Option.map_eq_none_iff.1 written
    rw [fst_taken whole, whole]
    rfl

theorem sent_of_writeFile : (fs.writeFile t bytes).sent = bytes := by
  obtain ⟨o, -, stored⟩ := exists_opening written
  rw [stored]

/-- What has been written to its end stands at its path, unless the path leads to something that keeps nothing. -/
theorem stat_of_writeFile (kept : ¬ fs.LeadsToSpecial t) :
    (fs.writeFile t bytes).files.stat t = .ok (.file bytes) := by
  obtain ⟨o, place, stored⟩ := exists_opening written
  rw [stored, if_neg (mt place.leadsToSpecial_iff.2 kept)]
  exact place.stat_put bytes

end Written

/-- What keeps nothing takes everything and leaves the files as they are. -/
theorem files_of_special (special : fs.LeadsToSpecial t) : (fs.writeFile t bytes).files = fs := by
  by_cases null : Name.null ∈ t
  · rw [writeFile_of_null null]
  cases opened : fs.openToWrite t with
  | error e => rw [writeFile_of_shut null opened]
  | ok o =>
    have place := isAt_of_openToWrite opened
    rw [writeFile_of_open null opened, if_pos (place.leadsToSpecial_iff.1 special)]

/-- A path that does not take some bytes takes none at all, unless it was only while they were written that something
went wrong. -/
theorem writeFile_refused {f : OpenFault} (refused : (fs.writeFile t bytes).fault = some f) :
    (∀ bytes, fs.writeFile t bytes = ⟨fs, [], some f⟩) ∨ ∃ e, f = .os ⟨e, none⟩ := by
  by_cases null : Name.null ∈ t
  · rw [writeFile_of_null null] at refused
    obtain rfl := Option.some.inj refused
    exact .inl fun _ => writeFile_of_null null
  cases opened : fs.openToWrite t with
  | error e =>
    rw [writeFile_of_shut null opened] at refused
    obtain rfl := Option.some.inj refused
    exact .inl fun _ => writeFile_of_shut null opened
  | ok o =>
    rw [writeFile_of_open null opened] at refused
    obtain ⟨e, -, rfl⟩ := Option.map_eq_some_iff.1 refused
    exact .inr ⟨e, rfl⟩

theorem writeFile_eq_nullByte : (fs.writeFile t bytes).fault = some .nullByte ↔ Name.null ∈ t := by
  by_cases null : Name.null ∈ t
  · simp [writeFile_of_null null, null]
  cases opened : fs.openToWrite t with
  | error e => simp [writeFile_of_shut null opened, null]
  | ok o => simp [writeFile_of_open null opened, null]

end Stored

end Write

end FileSystem

end DependencyAudit
