import DependencyAudit.Proofs.Tree

namespace DependencyAudit

namespace Node

/-- What a node is to a path that comes to it, whatever it holds. -/
inductive Shape where
  | directory
  | link (target : Name)
  | leaf

def shape : Node → Shape
  | .directory _ _ => .directory
  | .link target => .link target
  | .file _ => .leaf
  | .special _ => .leaf

theorem shape_eq_link {n : Node} {target : Name} : n.shape = .link target ↔ n = .link target := by
  cases n <;> simp [shape]

theorem map_shape_eq_link {found : Option Node} {target : Name} :
    found.map shape = some (.link target) ↔ found = some (.link target) := by
  cases found with
  | none => simp
  | some n => simp [shape_eq_link]

theorem isNone_eq_of_shape {found found' : Option Node} (h : found'.map shape = found.map shape) :
    found'.isNone = found.isNone := by simpa using congrArg Option.isNone h

theorem isDirectory_iff_shape {n : Node} : n.isDirectory = true ↔ n.shape = .directory := by
  cases n <;> simp [isDirectory, shape]

theorem at?_append_singleton (n : Node) (names : List Name) (name : Name) :
    n.at? (names ++ [name]) = (n.at? names).bind fun m => m.child? name := by
  rw [at?, List.foldlM_append]
  apply bind_congr
  intro m
  simp

end Node

namespace FileSystem

def shapeAt (fs : FileSystem) (place : List Name) : Option Node.Shape := (fs.at? place).map Node.shape

/-- Two file trees that hang at one base and have the same shape at every place. Paths lead to the same places in
them. -/
structure SameShape (fs fs' : FileSystem) : Prop where
  base : fs'.base = fs.base
  here : fs'.here = fs.here
  links : fs'.tree.linkCount = fs.tree.linkCount
  shapes : ∀ place, fs'.shapeAt place = fs.shapeAt place

theorem place?_entry (place : List Name) (name : Name) (found : Option Node) :
    (Target.entry place name found).place? = if found.isNone then .error .notFound else .ok (place ++ [name]) := by
  cases found <;> rfl

section Follow

variable {fs : FileSystem} {again : List Name → List Name → Except OsFault Target} {place rest : List Name}
  {name target : Name} {directory : Node}

theorem directoryAt_eq_ok : fs.directoryAt place = .ok directory ↔
    fs.at? place = some directory ∧ directory.shape = .directory := by
  rw [directoryAt]
  cases fs.at? place with
  | none => simp
  | some n =>
    cases n <;> simp
    all_goals rintro rfl
    all_goals simp [Node.shape]

theorem directoryAt_eq_notDirectory {n : Node} (h : fs.at? place = some n) (other : n.shape ≠ .directory) :
    fs.directoryAt place = .error .notDirectory := by
  rw [directoryAt, h]
  cases n with
  | directory => exact absurd rfl other
  | file | link | special => rfl

/-- Only at and below the base can a directory have anything in it. -/
theorem child?_of_directoryAt (h : fs.directoryAt place = .ok directory) (name : Name) :
    directory.child? name = if fs.base.isPrefixOf place then fs.at? (place ++ [name]) else none := by
  obtain ⟨stands, -⟩ := directoryAt_eq_ok.1 h
  rw [at?] at stands
  cases inside : fs.base.isPrefixOf? place with
  | some below =>
    have whole : fs.base ++ below = place := List.isPrefixOf?_eq_some_iff_append_eq.1 inside
    have further : fs.base.isPrefixOf? (place ++ [name]) = some (below ++ [name]) := by
      rw [List.isPrefixOf?_eq_some_iff_append_eq, ← whole, List.append_assoc]
    have starts : fs.base.isPrefixOf place = true := by
      rw [List.isPrefixOf_iff_prefix, ← whole]
      exact List.prefix_append ..
    rw [inside] at stands
    have stands : fs.tree.at? below = some directory := stands
    simp only [starts, if_true, at?, further, Node.at?_append_singleton, stands, Option.bind_some]
  | none =>
    rw [inside] at stands
    have apart : fs.base.isPrefixOf place = false := by
      rw [Bool.eq_false_iff]
      intro starts
      obtain ⟨below, whole⟩ := List.isPrefixOf_iff_prefix.1 starts
      rw [List.isPrefixOf?_eq_some_iff_append_eq.2 whole] at inside
      cases inside
    by_cases above : place.isPrefixOf fs.base = true
    · obtain rfl := Option.some.inj ((if_pos above).symm.trans stands)
      simp [apart, Node.emptyDirectory, Node.child?, Node.entries]
    · cases (if_neg above).symm.trans stands

theorem follow_dot (h : fs.directoryAt place = .ok directory) :
    fs.follow again place (Path.dot :: rest) = fs.follow again place rest := by
  rw [follow, h]
  rfl

theorem follow_dotDot (h : fs.directoryAt place = .ok directory) :
    fs.follow again place (Path.dotDot :: rest) = fs.follow again place.dropLast rest := by
  rw [follow, h]
  rfl

theorem follow_error {fault : OsFault} (h : fs.directoryAt place = .error fault) :
    fs.follow again place (name :: rest) = .error fault := by
  rw [follow, h]

/-- A name that leads on by what stands under it. -/
structure Plain (name : Name) : Prop where
  dot : name ≠ Path.dot
  dotDot : name ≠ Path.dotDot
  short : tooLong name = false

theorem follow_tooLong (h : fs.directoryAt place = .ok directory) (hd : name ≠ Path.dot) (hu : name ≠ Path.dotDot)
    (long : tooLong name = true) : fs.follow again place (name :: rest) = .error .nameTooLong := by
  rw [follow, h]
  simp only [if_neg hd, if_neg hu, if_pos long]

theorem follow_link (h : fs.directoryAt place = .ok directory) (plain : Plain name)
    (child : directory.child? name = some (.link target)) :
    fs.follow again place (name :: rest) =
      again (fs.behindLink place target rest).1 (fs.behindLink place target rest).2 := by
  rw [follow, h]
  simp only [if_neg plain.dot, if_neg plain.dotDot, plain.short, child, Bool.false_eq_true, if_false]

theorem follow_child (h : fs.directoryAt place = .ok directory) (plain : Plain name)
    (child : ∀ target, directory.child? name ≠ some (.link target)) :
    fs.follow again place (name :: rest) =
      if rest = [] then .ok (.entry place name (directory.child? name))
      else if (directory.child? name).isNone then .error .notFound
      else fs.follow again (place ++ [name]) rest := by
  rw [follow, h]
  simp only [if_neg plain.dot, if_neg plain.dotDot, plain.short, Bool.false_eq_true, if_false]

end Follow

namespace SameShape

variable {fs fs' : FileSystem} (h : fs.SameShape fs')

include h

theorem directoryAt (place : List Name) :
    (∃ fault, fs.directoryAt place = .error fault ∧ fs'.directoryAt place = .error fault) ∨
      ∃ d d', fs.directoryAt place = .ok d ∧ fs'.directoryAt place = .ok d' ∧
        ∀ name, (d'.child? name).map Node.shape = (d.child? name).map Node.shape := by
  have shape := h.shapes place
  rw [shapeAt, shapeAt] at shape
  cases hn : fs.at? place with
  | none =>
    have hn' : fs'.at? place = none := by simpa [hn] using shape
    exact .inl ⟨.notFound, by simp [FileSystem.directoryAt, hn], by simp [FileSystem.directoryAt, hn']⟩
  | some n =>
    obtain ⟨n', hn', same⟩ : ∃ n', fs'.at? place = some n' ∧ n'.shape = n.shape := by simpa [hn] using shape
    by_cases directory : n.shape = .directory
    · have hd : fs.directoryAt place = .ok n := directoryAt_eq_ok.2 ⟨hn, directory⟩
      have hd' : fs'.directoryAt place = .ok n' := directoryAt_eq_ok.2 ⟨hn', same.trans directory⟩
      refine .inr ⟨n, n', hd, hd', ?_⟩
      intro name
      rw [child?_of_directoryAt hd, child?_of_directoryAt hd', h.base]
      split
      · exact h.shapes _
      · rfl
    · have directory' : n'.shape ≠ .directory := by rwa [same]
      exact .inl ⟨.notDirectory, directoryAt_eq_notDirectory hn directory, directoryAt_eq_notDirectory hn' directory'⟩

theorem entrance (names : List Name) : fs'.entrance names = fs.entrance names := by
  rw [FileSystem.entrance, FileSystem.entrance, h.base]

theorem behindLink (place : List Name) (target : Name) (rest : List Name) :
    fs'.behindLink place target rest = fs.behindLink place target rest := by
  rw [FileSystem.behindLink, FileSystem.behindLink, h.entrance]

theorem follow {again again' : List Name → List Name → Except OsFault Target}
    (agree : ∀ place names, (again' place names).bind Target.place? = (again place names).bind Target.place?)
    (place names : List Name) :
    (fs'.follow again' place names).bind Target.place? = (fs.follow again place names).bind Target.place? := by
  induction names generalizing place with
  | nil => rfl
  | cons name rest ih =>
    rcases h.directoryAt place with ⟨fault, hd, hd'⟩ | ⟨d, d', hd, hd', same⟩
    · rw [follow_error hd, follow_error hd']
    · by_cases dotted : name = Path.dot
      · rw [dotted, follow_dot hd, follow_dot hd', ih]
      by_cases up : name = Path.dotDot
      · rw [up, follow_dotDot hd, follow_dotDot hd', ih]
      by_cases long : tooLong name = true
      · rw [follow_tooLong hd dotted up long, follow_tooLong hd' dotted up long]
      have plain : Plain name := ⟨dotted, up, Bool.eq_false_iff.2 long⟩
      have same := same name
      by_cases link : ∃ target, d.child? name = some (.link target)
      · obtain ⟨target, link⟩ := link
        have link' : d'.child? name = some (.link target) := by
          rwa [← Node.map_shape_eq_link, same, Node.map_shape_eq_link]
        rw [follow_link hd plain link, follow_link hd' plain link', h.behindLink]
        exact agree ..
      · have none_left : ∀ target, d.child? name ≠ some (.link target) := fun t ht => link ⟨t, ht⟩
        have none_left' : ∀ target, d'.child? name ≠ some (.link target) := by
          intro t ht
          apply none_left t
          rwa [← Node.map_shape_eq_link, ← same, Node.map_shape_eq_link]
        rw [follow_child hd plain none_left, follow_child hd' plain none_left', Node.isNone_eq_of_shape same]
        split
        · simp only [Except.bind, place?_entry, Node.isNone_eq_of_shape same]
        · split
          · rfl
          · exact ih _

theorem reach (budget : Nat) (place names : List Name) :
    (fs'.reach budget place names).bind Target.place? = (fs.reach budget place names).bind Target.place? := by
  induction budget generalizing place names with
  | zero => exact h.follow (fun _ _ => rfl) place names
  | succ budget ih => exact h.follow ih place names

theorem placeOf (t : Name) : fs'.placeOf t = fs.placeOf t := by
  by_cases long : pathTooLong t = true
  · simp only [FileSystem.placeOf, target, if_pos long]
  by_cases empty : t = []
  · simp only [FileSystem.placeOf, target, if_neg long, if_pos empty]
  simp only [FileSystem.placeOf, target, if_neg long, if_neg empty, h.entrance, h.here]
  exact h.reach ..

end SameShape

namespace SameShape

variable {fs fs' : FileSystem} (h : fs.SameShape fs')

include h

/-- At a path both trees have nothing, for the same reason, or something at one place. -/
theorem stat (t : Name) :
    (∃ fault, fs.stat t = .error fault ∧ fs'.stat t = .error fault) ∨
      ∃ place n n', fs.stat t = .ok n ∧ fs'.stat t = .ok n' ∧ fs.at? place = some n ∧ fs'.at? place = some n' := by
  rw [FileSystem.stat, FileSystem.stat, h.placeOf]
  cases fs.placeOf t with
  | error fault => exact .inl ⟨fault, rfl, rfl⟩
  | ok place =>
    have shape := h.shapes place
    rw [shapeAt, shapeAt] at shape
    simp only [Except.bind, standingAt]
    cases hn : fs.at? place with
    | none =>
      have hn' : fs'.at? place = none := by simpa [hn] using shape
      exact .inl ⟨.notFound, rfl, by rw [hn']⟩
    | some n =>
      obtain ⟨n', hn', same⟩ : ∃ n', fs'.at? place = some n' ∧ n'.shape = n.shape := by simpa [hn] using shape
      have directory : n'.isDirectory = n.isDirectory := by
        rw [Bool.eq_iff_iff, Node.isDirectory_iff_shape, Node.isDirectory_iff_shape, same]
      simp only [hn', directory]
      split
      · exact .inl ⟨.notDirectory, rfl, rfl⟩
      · exact .inr ⟨place, n, n', rfl, rfl, hn, hn'⟩

theorem resolveParts (inner : Trail → Path → List Name → Resolved) (trail : Trail) (place : Path)
    (parts : List Name) :
    fs'.resolveParts inner trail place parts = fs.resolveParts inner trail place parts := by
  induction parts generalizing trail place with
  | nil => rfl
  | cons name rest ih =>
    have shape := h.shapes (absolute fs.here (place.child name)).names
    rw [shapeAt, shapeAt] at shape
    rw [FileSystem.resolveParts, FileSystem.resolveParts]
    simp only [ih, standing?, h.here]
    cases hn : fs.at? (absolute fs.here (place.child name)).names with
    | none =>
      have hn' : fs'.at? (absolute fs.here (place.child name)).names = none := by simpa [hn] using shape
      rw [hn']
    | some n =>
      obtain ⟨n', hn', same⟩ : ∃ n', fs'.at? (absolute fs.here (place.child name)).names = some n' ∧
        n'.shape = n.shape := by simpa [hn] using shape
      rw [hn']
      cases n with
      | link target => rw [Node.shape_eq_link.1 same]
      | file | directory | special => cases n' <;> first | rfl | cases same

theorem resolveFrom (depth : Nat) : fs'.resolveFrom depth = fs.resolveFrom depth := by
  induction depth with
  | zero => rfl
  | succ depth ih =>
    funext trail place parts
    rw [FileSystem.resolveFrom, FileSystem.resolveFrom, ih]
    exact h.resolveParts ..

theorem isAdrift (p : Path) : fs'.isAdrift p = fs.isAdrift p := by
  rw [FileSystem.isAdrift, FileSystem.isAdrift, h.here]
  rcases h.directoryAt fs.here with ⟨fault, hd, hd'⟩ | ⟨d, d', hd, hd', -⟩
  · rw [hd, hd']
  · rw [hd, hd']
    rfl

theorem led (p : Path) : fs'.led p = fs.led p := by
  have depth : fs'.resolveDepth = fs.resolveDepth := by rw [resolveDepth, resolveDepth, h.links, h.here]
  simp only [FileSystem.led, depth, h.here, h.resolveFrom]

theorem resolve (p : Path) : fs'.resolve p = fs.resolve p := by
  simp only [FileSystem.resolve, h.isAdrift, h.led]
  rcases h.stat (fs.led p).text with ⟨fault, hs, hs'⟩ | ⟨_, n, n', hs, hs', -, -⟩
  · rw [hs, hs']
  · rw [hs, hs']

end SameShape

end FileSystem

end DependencyAudit
