import Fitout.Category.Survey
import Fitout.Category.Tree

/-!
How the tree is put together. First every category that has a place gets a node with nothing below
it; then each one that is no room is put under the node of its parent, wherever in the list that
one stands. The survey of the depths makes sure that there is such a node.
-/

namespace Fitout.Category

namespace Tree

/-- What was put under a node, by the level that it lies on. -/
structure Branches where
  elements : List Category
  subElements : List Category

namespace Branches

def empty : Branches :=
  ⟨[], []⟩

/-- Put a category of this depth under a node. -/
def add (b : Branches) (depth : Nat) (c : Category) : Branches :=
  if depth == 1 then { b with elements := b.elements ++ [c] }
  else { b with subElements := b.subElements ++ [c] }

end Branches

/-- The nodes in the making, with what was put under each id so far. -/
abbrev Draft := List (Int × Branches)

/-- The depth at which a category stands in the tree, if it does. -/
def place? (s : Survey) (c : Category) : Option Nat :=
  match s.depth c.id with
  | .ends depth => if depth ≤ deepest then some depth else none
  | .loops => none

namespace Draft

/-- A node for every category that has a place. -/
def start (s : Survey) (categories : List Category) : Draft :=
  (categories.filter fun c => (place? s c).isSome).map fun c => (c.id, .empty)

/-- Put a category under the node of an id, if there is one. -/
def put? (draft : Draft) (parent : Int) (depth : Nat) (c : Category) : Option Draft :=
  (draft.lookup parent).map fun b => (parent, b.add depth c) :: draft

/-- Put each category that is no room under the node of its parent. There is no tree if one of the
parents has no node. -/
def attach? (s : Survey) (draft : Draft) : List Category → Option Draft
  | [] => some draft
  | c :: rest =>
    match place? s c with
    | none | some 0 => attach? s draft rest
    | some (depth + 1) => do
      let parent ← c.parentId
      let draft ← draft.put? parent (depth + 1) c
      attach? s draft rest

def below (draft : Draft) (id : Int) : Branches :=
  (draft.lookup id).getD .empty

def elementNode (draft : Draft) (c : Category) : ElementNode :=
  ⟨c, (draft.below c.id).subElements⟩

def roomNode (draft : Draft) (c : Category) : RoomNode :=
  ⟨c, (draft.below c.id).elements.map draft.elementNode⟩

end Draft

/-- The issues of a list, those of repeated ids first. -/
def issuesOf (entries : List Category) : List TreeIssue :=
  let categories := latest entries
  (repeatedIds [] entries).map .duplicate ++ categories.filterMap (issue? (survey categories))

/-- Put the tree together. Siblings stay in input order. -/
def assemble? (entries : List Category) : Option Tree :=
  let categories := latest entries
  let s := survey categories
  (Draft.attach? s (.start s categories) categories).map fun draft =>
    { rooms := (level s categories 0).map draft.roomNode
      issues := issuesOf entries }

theorem place?_eq_some_iff {s : Survey} {c : Category} {depth : Nat} :
    place? s c = some depth ↔ s.depth c.id = .ends depth ∧ depth ≤ deepest := by
  unfold place?
  split
  · rename_i steps found
    rw [found, Depth.ends.injEq, Option.ite_none_right_eq_some, Option.some.injEq]
    constructor
    · rintro ⟨near, rfl⟩
      exact ⟨rfl, near⟩
    · rintro ⟨rfl, near⟩
      exact ⟨near, rfl⟩
  · rename_i found
    simp [found]

theorem mem_level_iff {s : Survey} {categories : List Category} {depth : Nat} {c : Category} :
    c ∈ level s categories depth ↔ c ∈ categories ∧ s.depth c.id = .ends depth := by
  simp [level]

theorem mem_childrenOf_iff {categories : List Category} {id : Int} {c : Category} :
    c ∈ childrenOf categories (some id) ↔ c ∈ categories ∧ c.parentId = some id := by
  simp [childrenOf]

namespace Branches

def append (near far : Branches) : Branches :=
  ⟨near.elements ++ far.elements, near.subElements ++ far.subElements⟩

/-- What a list has to put under an id. -/
def ofList (s : Survey) (categories : List Category) (id : Int) : Branches :=
  ⟨childrenOf (level s categories 1) (some id), childrenOf (level s categories 2) (some id)⟩

theorem empty_append (b : Branches) : empty.append b = b := rfl

theorem append_ofList_nil (s : Survey) (id : Int) (b : Branches) :
    b.append (ofList s [] id) = b := by
  simp [append, ofList, level, childrenOf]

variable {s : Survey} {c : Category} {rest : List Category}

theorem ofList_cons_of_place (id : Int) (away : ∀ depth, place? s c ≠ some (depth + 1)) :
    ofList s (c :: rest) id = ofList s rest id := by
  have one : ¬ s.depth c.id = .ends 1 := fun found =>
    away 0 (place?_eq_some_iff.mpr ⟨found, by decide⟩)
  have two : ¬ s.depth c.id = .ends 2 := fun found =>
    away 1 (place?_eq_some_iff.mpr ⟨found, by decide⟩)
  simp [ofList, level, one, two]

theorem ofList_cons_of_parent {id : Int} (away : c.parentId ≠ some id) :
    ofList s (c :: rest) id = ofList s rest id := by
  simp only [ofList, level, childrenOf, List.filter_filter]
  simp [away]

theorem append_ofList_cons {id : Int} {depth : Nat} (placed : place? s c = some (depth + 1))
    (parent : c.parentId = some id) (b : Branches) :
    b.append (ofList s (c :: rest) id) = (b.add (depth + 1) c).append (ofList s rest id) := by
  obtain ⟨found, near⟩ := place?_eq_some_iff.mp placed
  simp only [deepest] at near
  obtain rfl | rfl : depth = 0 ∨ depth = 1 := by omega
  · simp [append, add, ofList, level, childrenOf, found, parent]
  · simp [append, add, ofList, level, childrenOf, found, parent]

end Branches

namespace Draft

/-- If every parent has a node, each category comes under the node of its parent, in input order. -/
theorem attach?_eq {s : Survey} {draft : Draft} {rest : List Category}
    (parents : ∀ c ∈ rest, ∀ depth, place? s c = some (depth + 1) →
      ∃ parent, c.parentId = some parent ∧ ∃ b, draft.lookup parent = some b) :
    ∃ full, attach? s draft rest = some full ∧ ∀ id b, draft.lookup id = some b →
      full.lookup id = some (b.append (.ofList s rest id)) := by
  induction rest generalizing draft with
  | nil =>
    refine ⟨draft, rfl, fun id b found => ?_⟩
    rw [found, Branches.append_ofList_nil]
  | cons c rest inductionHypothesis =>
    have parentsRest := fun d (member : d ∈ rest) => parents d (List.mem_cons_of_mem _ member)
    cases placed : place? s c with
    | none =>
      obtain ⟨full, attached, all⟩ := inductionHypothesis parentsRest
      refine ⟨full, by simp only [attach?, placed, attached], fun id b found => ?_⟩
      rw [Branches.ofList_cons_of_place id (by simp [placed])]
      exact all id b found
    | some depth =>
      cases depth with
      | zero =>
        obtain ⟨full, attached, all⟩ := inductionHypothesis parentsRest
        refine ⟨full, by simp only [attach?, placed, attached], fun id b found => ?_⟩
        rw [Branches.ofList_cons_of_place id (by simp [placed])]
        exact all id b found
      | succ depth =>
        obtain ⟨parent, named, under, node⟩ := parents c List.mem_cons_self depth placed
        let grown : Draft := (parent, under.add (depth + 1) c) :: draft
        have put : draft.put? parent (depth + 1) c = some grown := by
          simp only [put?, node, Option.map_some, grown]
        have known (id : Int) (b : Branches) (found : draft.lookup id = some b) :
            ∃ after, grown.lookup id = some after ∧
              after.append (.ofList s rest id) = b.append (.ofList s (c :: rest) id) := by
          by_cases here : id = parent
          · subst here
            obtain rfl := Option.some.inj (node.symm.trans found)
            exact ⟨_, List.lookup_cons_self, (Branches.append_ofList_cons placed named _).symm⟩
          · have away : c.parentId ≠ some id := by
              rw [named]
              exact fun same => here (Option.some.inj same).symm
            refine ⟨b, ?_, by rw [Branches.ofList_cons_of_parent away]⟩
            simp only [grown, List.lookup_cons, beq_false_of_ne here]
            exact found
        have parentsGrown : ∀ d ∈ rest, ∀ depth, place? s d = some (depth + 1) →
            ∃ parent, d.parentId = some parent ∧ ∃ b, grown.lookup parent = some b := by
          intro d member depthToo placedToo
          obtain ⟨p, namedToo, b, found⟩ := parentsRest d member depthToo placedToo
          obtain ⟨after, foundAfter, _⟩ := known p b found
          exact ⟨p, namedToo, after, foundAfter⟩
        obtain ⟨full, attached, all⟩ := inductionHypothesis parentsGrown
        refine ⟨full, ?_, fun id b found => ?_⟩
        · simp only [attach?, placed, named, put, attached, Option.bind_eq_bind, Option.bind_some]
        · obtain ⟨after, foundAfter, same⟩ := known id b found
          rw [← same]
          exact all id after foundAfter

theorem lookup_start {s : Survey} {categories : List Category} {c : Category}
    (listed : c ∈ categories) {depth : Nat} (placed : place? s c = some depth) :
    (start s categories).lookup c.id = some .empty := by
  have member : c ∈ categories.filter fun c => (place? s c).isSome :=
    List.mem_filter.mpr ⟨listed, by simp [placed]⟩
  unfold start
  generalize categories.filter (fun c => (place? s c).isSome) = nodes at member
  induction nodes with
  | nil => cases member
  | cons first nodes inductionHypothesis =>
    rw [List.map_cons, List.lookup_cons]
    split
    · rfl
    · rename_i other
      rcases List.mem_cons.mp member with rfl | later
      · simp at other
      · exact inductionHypothesis later

/-- The parent of a category below the first level has a node one level higher. -/
theorem exists_parent {categories : List Category} (nodup : (categories.map Category.id).Nodup)
    {c : Category} (listed : c ∈ categories) {depth : Nat}
    (placed : place? (survey categories) c = some (depth + 1)) :
    ∃ parent ∈ categories, c.parentId = some parent.id ∧
      place? (survey categories) parent = some depth := by
  obtain ⟨found, near⟩ := place?_eq_some_iff.mp placed
  obtain ⟨parent, parentListed, named, parentFound⟩ :=
    (depth_eq_succ_iff nodup listed).mp found
  exact ⟨parent, parentListed, named, place?_eq_some_iff.mpr ⟨parentFound, by omega⟩⟩

end Draft

/-- An element with its sub-elements, out of all those there are. -/
def elementNode (subElements : List Category) (c : Category) : ElementNode :=
  ⟨c, childrenOf subElements (some c.id)⟩

/-- A room with its elements, out of all those there are. -/
def roomNode (elements subElements : List Category) (c : Category) : RoomNode :=
  ⟨c, (childrenOf elements (some c.id)).map (elementNode subElements)⟩

/-- No parent is ever without a node, and every node gets the children that name it. -/
theorem assemble?_eq (entries : List Category) :
    assemble? entries = some
      { rooms := (level (survey (latest entries)) (latest entries) 0).map
          (roomNode (level (survey (latest entries)) (latest entries) 1)
            (level (survey (latest entries)) (latest entries) 2))
        issues := issuesOf entries } := by
  simp only [assemble?]
  generalize known : latest entries = categories
  have nodup : (categories.map Category.id).Nodup := known ▸ nodup_latest entries
  generalize surveyed : survey categories = s
  have parents : ∀ c ∈ categories, ∀ depth, place? s c = some (depth + 1) →
      ∃ parent, c.parentId = some parent ∧
        ∃ b, (Draft.start s categories).lookup parent = some b := by
    intro c listed depth placed
    subst surveyed
    obtain ⟨parent, parentListed, named, parentPlaced⟩ := Draft.exists_parent nodup listed placed
    exact ⟨parent.id, named, _, Draft.lookup_start parentListed parentPlaced⟩
  obtain ⟨full, attached, all⟩ := Draft.attach?_eq parents
  have below (c : Category) (listed : c ∈ categories) (depth : Nat)
      (placed : place? s c = some depth) : full.below c.id = .ofList s categories c.id := by
    simp only [Draft.below, all _ _ (Draft.lookup_start listed placed), Branches.empty_append,
      Option.getD_some]
  have placed (c : Category) (depth : Nat) (near : depth ≤ deepest)
      (member : c ∈ level s categories depth) : c ∈ categories ∧ place? s c = some depth :=
    ⟨(mem_level_iff.mp member).1, place?_eq_some_iff.mpr ⟨(mem_level_iff.mp member).2, near⟩⟩
  simp only [attached, Option.map_some, Option.some.injEq, Tree.mk.injEq, and_true]
  refine List.map_congr_left fun room roomMember => ?_
  obtain ⟨roomListed, roomPlaced⟩ := placed room 0 (by decide) roomMember
  simp only [Draft.roomNode, roomNode, below room roomListed 0 roomPlaced, Branches.ofList,
    RoomNode.mk.injEq, true_and]
  refine List.map_congr_left fun element elementMember => ?_
  obtain ⟨elementListed, elementPlaced⟩ :=
    placed element 1 (by decide) (mem_childrenOf_iff.mp elementMember).1
  simp only [Draft.elementNode, elementNode, below element elementListed 1 elementPlaced,
    Branches.ofList]

/-- Build the tree. -/
def build (entries : List Category) : Tree :=
  (assemble? entries).get (by rw [assemble?_eq]; rfl)

theorem assemble?_eq_build (entries : List Category) : assemble? entries = some (build entries) :=
  (Option.some_get _).symm

/-- The tree said level by level. -/
theorem build_eq (entries : List Category) :
    build entries =
      { rooms := (level (survey (latest entries)) (latest entries) 0).map
          (roomNode (level (survey (latest entries)) (latest entries) 1)
            (level (survey (latest entries)) (latest entries) 2))
        issues := issuesOf entries } :=
  Option.some.inj ((assemble?_eq_build entries).symm.trans (assemble?_eq entries))

end Tree

end Fitout.Category
