import DependencyAudit.Proofs.Shape

namespace DependencyAudit

namespace Node

mutual

/-- A tree with nothing left but its names and links: everything can be listed and opened, and all files are empty. -/
def outline : Node → Node
  | .file _ => .file []
  | .directory _ es => .directory true (outlines es)
  | .link target => .link target
  | .special _ => .special []
termination_by structural n => n

def entryOutline : Entry Node → Entry Node
  | ⟨name, _, _, node⟩ => ⟨name, false, false, outline node⟩
termination_by structural e => e

def outlines : List (Entry Node) → List (Entry Node)
  | [] => []
  | e :: es => entryOutline e :: outlines es
termination_by structural es => es

end

@[simp] theorem entryOutline_name (e : Entry Node) : (entryOutline e).name = e.name := by
  cases e
  rfl

@[simp] theorem entryOutline_node (e : Entry Node) : (entryOutline e).node = e.node.outline := by
  cases e
  rfl

theorem outlines_eq_map (es : List (Entry Node)) : outlines es = es.map entryOutline := by
  induction es with
  | nil => rfl
  | cons e es ih => rw [outlines, List.map_cons, ih]

theorem child?_outline (n : Node) (name : Name) : n.outline.child? name = (n.child? name).map outline := by
  cases n with
  | directory listable es =>
    simp only [outline, child?, entries, outlines_eq_map, List.find?_map, Option.map_map, Function.comp_def,
      entryOutline_name, entryOutline_node]
  | file | link | special => rfl

theorem at?_outline (n : Node) (names : List Name) : n.outline.at? names = (n.at? names).map outline := by
  induction names generalizing n with
  | nil => rfl
  | cons name names ih =>
    simp only [at?, List.foldlM_cons, child?_outline] at ih ⊢
    cases n.child? name with
    | none => rfl
    | some m => exact ih m

theorem shape_outline (n : Node) : n.outline.shape = n.shape := by
  cases n <;> rfl

theorem linkCount_outline (n : Node) : n.outline.linkCount = n.linkCount := by
  induction n using tree_induction with
  | directory listable es ih =>
    have all : linkCounts (es.map entryOutline) = linkCounts es := by
      induction es with
      | nil => rfl
      | cons e es rest =>
        have first := ih e List.mem_cons_self
        have later := rest fun d hd => ih d (List.mem_cons_of_mem e hd)
        rw [List.map_cons, linkCounts, linkCounts, entryOutline_node, first, later]
    rw [outline, linkCount, outlines_eq_map, all, linkCount]
  | file | link | special => rfl

end Node

namespace FileSystem

variable (fs : FileSystem)

def outline : FileSystem := { fs with tree := fs.tree.outline }

theorem at?_outline (place : List Name) : fs.outline.at? place = (fs.at? place).map Node.outline := by
  simp only [at?, outline]
  cases fs.base.isPrefixOf? place with
  | some below => exact Node.at?_outline ..
  | none => by_cases h : place.isPrefixOf fs.base <;> simp [h, Node.emptyDirectory, Node.outline, Node.outlines]

theorem sameShape_outline : fs.SameShape fs.outline where
  base := rfl
  here := rfl
  links := Node.linkCount_outline fs.tree
  shapes place := by
    rw [shapeAt, shapeAt, at?_outline, Option.map_map]
    exact congrArg (Option.map · _) (funext Node.shape_outline)

theorem placeOf_outline (t : Name) : fs.outline.placeOf t = fs.placeOf t := fs.sameShape_outline.placeOf t

theorem stat_outline (t : Name) : fs.outline.stat t = (fs.stat t).map Node.outline := by
  rcases fs.sameShape_outline.stat t with ⟨fault, h, h'⟩ | ⟨place, n, n', h, h', hn, hn'⟩
  · rw [h, h']
    rfl
  · rw [at?_outline, hn] at hn'
    obtain rfl := Option.some.inj hn'
    rw [h, h']
    rfl

theorem resolve_outline (p : Path) : fs.outline.resolve p = fs.resolve p := fs.sameShape_outline.resolve p

end FileSystem

end DependencyAudit
