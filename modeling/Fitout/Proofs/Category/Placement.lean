import Fitout.Category.Assembly
import Fitout.Proofs.Category.Chain
import Fitout.Proofs.Category.Search

/-!
# Where categories are placed

The surviving entries whose chains end after the same number of steps form a layer. The layers 0,
1 and 2 make up the tree, and the chain of an entry leads through the nodes above its own, so it
cannot stand at two places.
-/

namespace Fitout.Category.Tree

/-- The surviving entries whose chains have this length, in input order. -/
def layer (entries : List Category) (steps : Nat) : List Category :=
  level (survey (latest entries)) (latest entries) steps

def nodeOf (entries : List Category) (c : Category) : Nat → Node
  | 0 => .room (roomNode (layer entries 1) (layer entries 2) c)
  | 1 => .element (elementNode (layer entries 2) c)
  | _ => .subElement c

variable {entries : List Category}

theorem mem_layer_iff {c : Category} {steps : Nat} :
    c ∈ layer entries steps ↔ Survives entries c ∧ EndsAfter entries c steps := by
  rw [layer, mem_level_iff, mem_latest_iff]
  constructor
  · rintro ⟨survives, found⟩
    exact ⟨survives, (depth_eq_ends_iff survives).mp found⟩
  · rintro ⟨survives, ends⟩
    exact ⟨survives, (depth_eq_ends_iff survives).mpr ends⟩

theorem layer_sublist (entries : List Category) (steps : Nat) :
    (layer entries steps).Sublist (latest entries) :=
  List.filter_sublist

theorem nodup_layer (entries : List Category) (steps : Nat) : (layer entries steps).Nodup :=
  (List.Nodup.of_map _ (nodup_latest entries)).sublist (layer_sublist entries steps)

theorem rooms_build (entries : List Category) :
    (build entries).rooms =
      (layer entries 0).map (roomNode (layer entries 1) (layer entries 2)) := by
  rw [build_eq]
  rfl

theorem map_category_rooms (entries : List Category) :
    (build entries).rooms.map RoomNode.category = layer entries 0 := by
  rw [rooms_build, List.map_map]
  exact List.map_id _

@[simp]
theorem category_nodeOf (c : Category) (steps : Nat) : (nodeOf entries c steps).category = c := by
  match steps with
  | 0 => rfl
  | 1 => rfl
  | _ + 2 => rfl

theorem depth_nodeOf (c : Category) {steps : Nat} (near : steps ≤ 2) :
    (nodeOf entries c steps).depth = steps := by
  match steps, near with
  | 0, _ => rfl
  | 1, _ => rfl
  | 2, _ => rfl

/-- Below an entry stand those of the next layer that name it as their parent. -/
theorem children_nodeOf (c : Category) {steps : Nat} (near : steps < 2) :
    (nodeOf entries c steps).children =
      (childrenOf (layer entries (steps + 1)) (some c.id)).map (nodeOf entries · (steps + 1)) := by
  match steps, near with
  | 0, _ => simp [nodeOf, roomNode, Node.children]
  | 1, _ => simp [nodeOf, elementNode, Node.children]

theorem children_nodeOf_two (c : Category) : (nodeOf entries c 2).children = [] := rfl

theorem exists_parent_of_mem_layer {c : Category} {steps : Nat}
    (member : c ∈ layer entries (steps + 1)) :
    ∃ parent ∈ layer entries steps, c.parentId = some parent.id := by
  obtain ⟨_, ends⟩ := mem_layer_iff.mp member
  obtain ⟨parent, survives, named, rest⟩ := endsAfter_succ_iff.mp ends
  exact ⟨parent, mem_layer_iff.mpr ⟨survives, rest⟩, named⟩

theorem nodeOf_mem_nodes {c : Category} {steps : Nat} (near : steps ≤ 2)
    (member : c ∈ layer entries steps) : nodeOf entries c steps ∈ (build entries).nodes := by
  induction steps generalizing c with
  | zero =>
    apply mem_nodes_of_mem_rooms
    rw [rooms_build]
    exact List.mem_map_of_mem member
  | succ steps inductionHypothesis =>
    obtain ⟨parent, parentMember, named⟩ := exists_parent_of_mem_layer member
    apply mem_nodes_of_mem_children (inductionHypothesis (by omega) parentMember)
    rw [children_nodeOf parent (by omega)]
    exact List.mem_map_of_mem (mem_childrenOf_iff.mpr ⟨member, named⟩)

/-- A node of the first three layers has only such nodes below it. -/
theorem of_nodeOf_reaches {c : Category} {steps : Nat} {node : Node} (near : steps ≤ 2)
    (member : c ∈ layer entries steps) (reaches : Node.Reaches (nodeOf entries c steps) node) :
    ∃ depth ≤ 2, ∃ d ∈ layer entries depth, node = nodeOf entries d depth := by
  generalize start : nodeOf entries c steps = top at reaches
  induction reaches generalizing c steps with
  | self => exact ⟨steps, near, c, member, start.symm⟩
  | child listed _ inductionHypothesis =>
    subst start
    by_cases last : steps = 2
    · rw [last, children_nodeOf_two] at listed
      cases listed
    · rw [children_nodeOf c (by omega)] at listed
      obtain ⟨d, under, same⟩ := List.mem_map.mp listed
      exact inductionHypothesis (by omega) (mem_childrenOf_iff.mp under).1 same

theorem mem_nodes_build_iff {node : Node} :
    node ∈ (build entries).nodes ↔
      ∃ steps ≤ 2, ∃ c ∈ layer entries steps, node = nodeOf entries c steps := by
  constructor
  · intro listed
    obtain ⟨room, roomListed, reaches⟩ := mem_nodes_iff_reaches.mp listed
    rw [rooms_build] at roomListed
    obtain ⟨c, member, rfl⟩ := List.mem_map.mp roomListed
    change Node.Reaches (nodeOf entries c 0) node at reaches
    exact of_nodeOf_reaches (Nat.zero_le 2) member reaches
  · rintro ⟨steps, near, c, member, rfl⟩
    exact nodeOf_mem_nodes near member

theorem survives_of_mem_nodes {node : Node} (listed : node ∈ (build entries).nodes) :
    Survives entries node.category := by
  obtain ⟨steps, _, c, member, rfl⟩ := mem_nodes_build_iff.mp listed
  rw [category_nodeOf]
  exact (mem_layer_iff.mp member).1

theorem exists_mem_layer_of_mem_rooms {room : RoomNode} (listed : room ∈ (build entries).rooms) :
    ∃ c ∈ layer entries 0, room = roomNode (layer entries 1) (layer entries 2) c := by
  rw [rooms_build] at listed
  obtain ⟨c, member, rfl⟩ := List.mem_map.mp listed
  exact ⟨c, member, rfl⟩

/-- The elements of a room are the entries that name it, whatever they are. -/
theorem mem_elements_iff {room : RoomNode} (listed : room ∈ (build entries).rooms) {c : Category} :
    (∃ element ∈ room.elements, element.category = c) ↔
      Survives entries c ∧ c.parentId = some room.category.id := by
  obtain ⟨r, member, rfl⟩ := exists_mem_layer_of_mem_rooms listed
  obtain ⟨survives, ends⟩ := mem_layer_iff.mp member
  constructor
  · rintro ⟨element, among, rfl⟩
    obtain ⟨e, under, rfl⟩ := List.mem_map.mp among
    obtain ⟨placed, named⟩ := mem_childrenOf_iff.mp under
    exact ⟨(mem_layer_iff.mp placed).1, named⟩
  · rintro ⟨below, named⟩
    have placed : c ∈ layer entries 1 :=
      mem_layer_iff.mpr ⟨below, endsAfter_succ_iff.mpr ⟨r, survives, named, ends⟩⟩
    have under := mem_childrenOf_iff.mpr ⟨placed, named⟩
    exact ⟨elementNode (layer entries 2) c, List.mem_map_of_mem under, rfl⟩

theorem mem_subElements_iff {room : RoomNode} (listed : room ∈ (build entries).rooms)
    {element : ElementNode} (among : element ∈ room.elements) {c : Category} :
    c ∈ element.subElements ↔ Survives entries c ∧ c.parentId = some element.category.id := by
  obtain ⟨r, member, rfl⟩ := exists_mem_layer_of_mem_rooms listed
  obtain ⟨e, under, rfl⟩ := List.mem_map.mp among
  obtain ⟨survives, ends⟩ := mem_layer_iff.mp (mem_childrenOf_iff.mp under).1
  constructor
  · intro below
    obtain ⟨placed, named⟩ := mem_childrenOf_iff.mp below
    exact ⟨(mem_layer_iff.mp placed).1, named⟩
  · rintro ⟨below, named⟩
    have placed : c ∈ layer entries 2 :=
      mem_layer_iff.mpr ⟨below, endsAfter_succ_iff.mpr ⟨e, survives, named, ends⟩⟩
    exact mem_childrenOf_iff.mpr ⟨placed, named⟩

theorem survives_of_mem_rooms {room : RoomNode} (listed : room ∈ (build entries).rooms) :
    Survives entries room.category := by
  obtain ⟨r, member, rfl⟩ := exists_mem_layer_of_mem_rooms listed
  exact (mem_layer_iff.mp member).1

/-- A surviving entry whose chain leads through another one, which lies this many steps from the
end. -/
def LiesBelow (entries : List Category) (steps : Nat) (top c : Category) : Prop :=
  ∃ further, Climbs entries c further top ∧ EndsAfter entries c (steps + further)

theorem LiesBelow.unique {steps : Nat} {top other c : Category}
    (below : LiesBelow entries steps top c) (belowOther : LiesBelow entries steps other c) :
    top = other := by
  obtain ⟨further, climb, ends⟩ := below
  obtain ⟨furtherToo, otherClimb, otherEnds⟩ := belowOther
  obtain rfl : further = furtherToo := by
    have := ends.unique otherEnds
    omega
  exact climb.unique otherClimb

theorem LiesBelow.self {steps : Nat} {c : Category} (member : c ∈ layer entries steps) :
    LiesBelow entries steps c c :=
  ⟨0, .here c, (mem_layer_iff.mp member).2⟩

theorem LiesBelow.child {steps : Nat} {parent child c : Category}
    (member : parent ∈ layer entries steps)
    (under : child ∈ childrenOf (layer entries (steps + 1)) (some parent.id))
    (below : LiesBelow entries (steps + 1) child c) : LiesBelow entries steps parent c := by
  obtain ⟨further, climb, ends⟩ := below
  obtain ⟨_, named⟩ := mem_childrenOf_iff.mp under
  refine ⟨further + 1, ?_, ?_⟩
  · exact climb.onward (mem_layer_iff.mp member).1 named
  · rw [Nat.add_assoc, Nat.add_comm 1] at ends
    exact ends

theorem LiesBelow.not_mem_layer {steps : Nat} {top c : Category}
    (below : LiesBelow entries (steps + 1) top c) : c ∉ layer entries steps := by
  intro member
  obtain ⟨further, _, ends⟩ := below
  have := ends.unique (mem_layer_iff.mp member).2
  omega

theorem nodup_flatMap_of_liesBelow {steps : Nat} {tops : List Category} (nodup : tops.Nodup)
    {below : Category → List Category} (each : ∀ top ∈ tops, (below top).Nodup)
    (lies : ∀ top ∈ tops, ∀ c ∈ below top, LiesBelow entries steps top c) :
    (tops.flatMap below).Nodup := by
  apply List.nodup_flatMap.mpr
  refine ⟨each, nodup.pairwise_of_forall_ne ?_⟩
  -- The chain of a common entry would pass through both, and it passes each layer once.
  intro top member other otherMember apart c here there
  exact apart ((lies top member c here).unique (lies other otherMember c there))

/-- The entry of a node, followed by those of its children. -/
def withChildren (entries : List Category) (steps : Nat) (c : Category) : List Category :=
  c :: childrenOf (layer entries (steps + 1)) (some c.id)

/-- The entries of a room's branch of the tree. -/
def branch (entries : List Category) (room : Category) : List Category :=
  room :: (childrenOf (layer entries 1) (some room.id)).flatMap (withChildren entries 1)

theorem liesBelow_of_mem_withChildren {steps : Nat} {parent c : Category}
    (member : parent ∈ layer entries steps) (among : c ∈ withChildren entries steps parent) :
    LiesBelow entries steps parent c := by
  rcases List.mem_cons.mp among with rfl | under
  · exact .self member
  · exact .child member under (.self (mem_childrenOf_iff.mp under).1)

theorem liesBelow_of_mem_branch {room c : Category} (member : room ∈ layer entries 0)
    (among : c ∈ branch entries room) : LiesBelow entries 0 room c := by
  rcases List.mem_cons.mp among with rfl | further
  · exact .self member
  · obtain ⟨element, under, amongToo⟩ := List.mem_flatMap.mp further
    have elementMember := (mem_childrenOf_iff.mp under).1
    exact .child member under (liesBelow_of_mem_withChildren elementMember amongToo)

theorem nodup_childrenOf_layer (entries : List Category) (steps : Nat) (id : Int) :
    (childrenOf (layer entries steps) (some id)).Nodup :=
  (nodup_layer entries steps).filter _

theorem nodup_withChildren {steps : Nat} {parent : Category}
    (member : parent ∈ layer entries steps) : (withChildren entries steps parent).Nodup := by
  apply List.nodup_cons.mpr
  refine ⟨fun under => ?_, nodup_childrenOf_layer entries _ parent.id⟩
  have below : LiesBelow entries (steps + 1) parent parent :=
    .self (mem_childrenOf_iff.mp under).1
  exact below.not_mem_layer member

theorem nodup_branch {room : Category} (member : room ∈ layer entries 0) :
    (branch entries room).Nodup := by
  have placed {element : Category}
      (under : element ∈ childrenOf (layer entries 1) (some room.id)) :
      element ∈ layer entries 1 := (mem_childrenOf_iff.mp under).1
  apply List.nodup_cons.mpr
  constructor
  · intro among
    obtain ⟨element, under, amongToo⟩ := List.mem_flatMap.mp among
    exact (liesBelow_of_mem_withChildren (placed under) amongToo).not_mem_layer member
  · apply nodup_flatMap_of_liesBelow (nodup_childrenOf_layer entries 1 room.id)
    · intro element under
      exact nodup_withChildren (placed under)
    · intro element under c among
      exact liesBelow_of_mem_withChildren (placed under) among

theorem map_category_nodes_build (entries : List Category) :
    (build entries).nodes.map Node.category = (layer entries 0).flatMap (branch entries) := by
  rw [nodes, rooms_build, List.flatMap_map, List.map_flatMap]
  apply List.flatMap_congr
  intro room _
  simp only [roomNode, elementNode, List.map_cons, List.flatMap_map, List.map_flatMap,
    List.map_map, branch, Node.category]
  congr 1
  apply List.flatMap_congr
  intro element _
  simp [withChildren, Function.comp_def, Node.category]

theorem nodup_nodes_build (entries : List Category) :
    ((build entries).nodes.map Node.id).Nodup := by
  have categories : ((build entries).nodes.map Node.category).Nodup := by
    rw [map_category_nodes_build]
    apply nodup_flatMap_of_liesBelow (nodup_layer entries 0)
    · intro room member
      exact nodup_branch member
    · intro room member c among
      exact liesBelow_of_mem_branch member among
  have ids : (build entries).nodes.map Node.id =
      ((build entries).nodes.map Node.category).map Category.id := by
    rw [List.map_map]
    rfl
  rw [ids]
  apply categories.map_on
  intro c listed d listedToo same
  obtain ⟨node, nodeListed, rfl⟩ := List.mem_map.mp listed
  obtain ⟨other, otherListed, rfl⟩ := List.mem_map.mp listedToo
  exact (survives_of_mem_nodes nodeListed).eq (survives_of_mem_nodes otherListed) same

end Fitout.Category.Tree
