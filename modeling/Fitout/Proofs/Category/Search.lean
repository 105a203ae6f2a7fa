import Fitout.Category.Tree
import Mathlib.Data.List.Nodup

/-!
# Searching the tree

The search walks a stack, while the nodes of a tree are listed level below level. Both cover what
lies at or below the rooms, so a node is found if there is one, and it is the node itself that is
found if no two share an id.
-/

namespace Fitout.Category.Tree

/-- The second node lies at or below the first. -/
inductive Node.Reaches : Node → Node → Prop where
  | self (node : Node) : Reaches node node
  | child {node child target : Node} (listed : child ∈ node.children)
      (below : Reaches child target) : Reaches node target

theorem Node.Reaches.of_element {element : ElementNode} {node : Node}
    (reaches : Reaches (.element element) node) :
    node = .element element ∨ ∃ c ∈ element.subElements, node = .subElement c := by
  cases reaches with
  | self => exact .inl rfl
  | child listed below =>
    obtain ⟨c, member, rfl⟩ := List.mem_map.mp listed
    cases below with
    | self => exact .inr ⟨c, member, rfl⟩
    | child none _ => cases none

theorem mem_nodes_iff_reaches {tree : Tree} {node : Node} :
    node ∈ tree.nodes ↔ ∃ room ∈ tree.rooms, Node.Reaches (.room room) node := by
  simp only [nodes, List.mem_flatMap, List.mem_cons, List.mem_map]
  constructor
  · rintro ⟨room, listed, rfl | ⟨element, elementListed, rfl | ⟨c, member, rfl⟩⟩⟩
    · exact ⟨room, listed, .self _⟩
    · exact ⟨room, listed, .child (List.mem_map_of_mem elementListed) (.self _)⟩
    · exact ⟨room, listed, .child (List.mem_map_of_mem elementListed)
        (.child (List.mem_map_of_mem member) (.self _))⟩
  · rintro ⟨room, listed, reaches⟩
    refine ⟨room, listed, ?_⟩
    cases reaches with
    | self => exact .inl rfl
    | child childListed below =>
      obtain ⟨element, elementListed, rfl⟩ := List.mem_map.mp childListed
      apply Or.inr
      refine ⟨element, elementListed, ?_⟩
      rcases below.of_element with rfl | ⟨c, member, rfl⟩
      · exact .inl rfl
      · exact .inr ⟨c, member, rfl⟩

theorem mem_nodes_of_mem_rooms {tree : Tree} {room : RoomNode} (listed : room ∈ tree.rooms) :
    .room room ∈ tree.nodes :=
  mem_nodes_iff_reaches.mpr ⟨room, listed, .self _⟩

theorem Node.Reaches.trans {first second third : Node} (near : Reaches first second)
    (far : Reaches second third) : Reaches first third := by
  induction near with
  | self => exact far
  | child listed _ inductionHypothesis => exact .child listed (inductionHypothesis far)

theorem mem_nodes_of_mem_children {tree : Tree} {parent child : Node}
    (listed : parent ∈ tree.nodes) (under : child ∈ parent.children) : child ∈ tree.nodes := by
  obtain ⟨room, roomListed, reaches⟩ := mem_nodes_iff_reaches.mp listed
  exact mem_nodes_iff_reaches.mpr ⟨room, roomListed, reaches.trans (.child under (.self _))⟩

theorem of_search_eq_some {id : Int} {stack : List Node} {node : Node}
    (found : search id stack = some node) :
    node.id = id ∧ ∃ top ∈ stack, Node.Reaches top node := by
  induction stack using search.induct id with
  | case1 =>
    simp [search] at found
  | case2 top stack here =>
    rw [search, if_pos here] at found
    obtain rfl := Option.some.inj found
    exact ⟨beq_iff_eq.mp here, top, List.mem_cons_self, .self _⟩
  | case3 top stack other inductionHypothesis =>
    rw [search, if_neg other] at found
    obtain ⟨same, start, member, reaches⟩ := inductionHypothesis found
    refine ⟨same, ?_⟩
    rcases List.mem_append.mp member with inChildren | inStack
    · exact ⟨top, List.mem_cons_self, .child (List.mem_reverse.mp inChildren) reaches⟩
    · exact ⟨start, List.mem_cons_of_mem _ inStack, reaches⟩

theorem ne_of_search_eq_none {id : Int} {stack : List Node} (missed : search id stack = none)
    {top node : Node} (member : top ∈ stack) (reaches : Node.Reaches top node) :
    node.id ≠ id := by
  induction stack using search.induct id generalizing top with
  | case1 => cases member
  | case2 first stack here =>
    rw [search, if_pos here] at missed
    cases missed
  | case3 first stack other inductionHypothesis =>
    rw [search, if_neg other] at missed
    -- The node is the top itself, or lies below one of its children, or further down the stack.
    rcases List.mem_cons.mp member with rfl | inStack
    · cases reaches with
      | self =>
        intro same
        exact other (beq_iff_eq.mpr same)
      | child listed below =>
        have inChildren := List.mem_reverse.mpr listed
        exact inductionHypothesis missed (List.mem_append_left _ inChildren) below
    · exact inductionHypothesis missed (List.mem_append_right _ inStack) reaches

theorem of_find?_eq_some {tree : Tree} {id : Int} {node : Node}
    (found : tree.find? id = some node) : node ∈ tree.nodes ∧ node.id = id := by
  obtain ⟨same, top, member, reaches⟩ := of_search_eq_some found
  obtain ⟨room, listed, rfl⟩ := List.mem_map.mp (List.mem_reverse.mp member)
  exact ⟨mem_nodes_iff_reaches.mpr ⟨room, listed, reaches⟩, same⟩

theorem find?_eq_none_iff {tree : Tree} {id : Int} :
    tree.find? id = none ↔ ∀ node ∈ tree.nodes, node.id ≠ id := by
  constructor
  · intro missed node listed
    obtain ⟨room, roomListed, reaches⟩ := mem_nodes_iff_reaches.mp listed
    have onStack := List.mem_reverse.mpr (List.mem_map_of_mem (f := Node.room) roomListed)
    exact ne_of_search_eq_none missed onStack reaches
  · intro absent
    cases found : tree.find? id with
    | none => rfl
    | some node =>
      obtain ⟨listed, same⟩ := of_find?_eq_some found
      exact absurd same (absent node listed)

theorem find?_eq_some_iff {tree : Tree} (distinct : (tree.nodes.map Node.id).Nodup)
    {id : Int} {node : Node} :
    tree.find? id = some node ↔ node ∈ tree.nodes ∧ node.id = id := by
  constructor
  · exact of_find?_eq_some
  · rintro ⟨listed, same⟩
    cases found : tree.find? id with
    | none => exact absurd same (find?_eq_none_iff.mp found node listed)
    | some other =>
      obtain ⟨otherListed, otherSame⟩ := of_find?_eq_some found
      rw [List.inj_on_of_nodup_map distinct listed otherListed (same.trans otherSame.symm)]

end Fitout.Category.Tree
