import Fitout.Catalog.Snapshot
import Fitout.Proofs.Category.Placement

/-!
# The tree and the list of a snapshot

The tree is built from the entries as they were loaded, the list keeps the last entry of each id.
Both show the same categories: the children of a node are the entries of the list that name it, in
the order of the list, and the roots are the entries whose parent the list does not have.
-/

namespace Fitout.Category.Tree

variable {entries : List Category}

/-- Whoever names an entry of a layer belongs to the next one. -/
theorem childrenOf_latest_eq {c : Category} {steps : Nat} (member : c ∈ layer entries steps) :
    childrenOf (latest entries) (some c.id) =
      childrenOf (layer entries (steps + 1)) (some c.id) := by
  obtain ⟨survives, ends⟩ := mem_layer_iff.mp member
  simp only [childrenOf, layer, level, List.filter_filter]
  apply List.filter_congr
  intro d kept
  by_cases named : d.parentId = some c.id
  · have below : EndsAfter entries d (steps + 1) :=
      endsAfter_succ_iff.mpr ⟨c, survives, named, ends⟩
    have found := (depth_eq_ends_iff (mem_latest_iff.mp kept)).mpr below
    simp [named, found]
  · simp [named]

/-- The roots are the entries whose parent is null or not listed. -/
theorem layer_zero_eq (entries : List Category) :
    layer entries 0 = (latest entries).filter fun c =>
      c.parentId.all fun parent => (latest entries).all (·.id != parent) := by
  unfold layer level
  apply List.filter_congr
  intro c kept
  have top := depth_eq_zero_iff (nodup_latest entries) kept
  rw [Bool.eq_iff_iff, beq_iff_eq, top, listedParent?]
  cases c.parentId with
  | none => simp
  | some parent => simp [Option.filter_eq_none_iff]

end Fitout.Category.Tree

namespace Fitout.Catalog.Snapshot

open Category

variable {ticket : Int} {data : Data}

theorem category?_build_eq_some_iff {id : Int} {c : Category} :
    (build ticket data).category? id = some c ↔ Survives data.categories c ∧ c.id = id := by
  constructor
  · intro found
    obtain ⟨kept, same⟩ := of_find?_eq_some found
    exact ⟨mem_latest_iff.mp kept, same⟩
  · rintro ⟨survives, rfl⟩
    cases found : (build ticket data).category? c.id with
    | none =>
      have missed := List.find?_eq_none.mp found c (mem_latest_iff.mpr survives)
      simp at missed
    | some d =>
      obtain ⟨kept, same⟩ := of_find?_eq_some found
      rw [(mem_latest_iff.mp kept).eq survives same]

/-- The list and the tree of a snapshot show the same children, the same roots and the same entry
for every node. -/
theorem tree_agrees_with_list (ticket : Int) (data : Data) :
    let snapshot := build ticket data
    (∀ node ∈ snapshot.tree.nodes, node.depth < 2 →
      node.children.map Tree.Node.category = childrenOf snapshot.categories (some node.id)) ∧
    snapshot.tree.rooms.map RoomNode.category =
      snapshot.categories.filter (fun c =>
        c.parentId.all fun parent => snapshot.categories.all (·.id != parent)) ∧
    ∀ node ∈ snapshot.tree.nodes, snapshot.category? node.id = some node.category := by
  intro snapshot
  refine ⟨?_, ?_, ?_⟩
  · intro node listed shallow
    obtain ⟨steps, near, c, member, rfl⟩ := Tree.mem_nodes_build_iff.mp listed
    rw [Tree.depth_nodeOf c near] at shallow
    rw [Tree.children_nodeOf c shallow, Tree.Node.id, Tree.category_nodeOf, List.map_map]
    have under : childrenOf snapshot.categories (some c.id) =
        childrenOf (Tree.layer data.categories (steps + 1)) (some c.id) :=
      Tree.childrenOf_latest_eq member
    rw [under]
    exact (List.map_congr_left fun d _ => Tree.category_nodeOf d (steps + 1)).trans (List.map_id _)
  · exact (Tree.map_category_rooms data.categories).trans (Tree.layer_zero_eq data.categories)
  · intro node listed
    exact category?_build_eq_some_iff.mpr ⟨Tree.survives_of_mem_nodes listed, rfl⟩

/-- The entry that moved a category, the one with an unknown parent and those off the tree do not
tell the two apart. -/
theorem moved_entry_is_under_its_last_parent :
    let data : Data := { Data.empty with
      categories := [⟨3, "Tiles", some 2, none⟩, ⟨2, "Floor", some 4, none⟩,
        ⟨1, "Bathroom", none, none⟩, ⟨2, "Floor", some 1, none⟩, ⟨4, "Cellar", some 8, none⟩,
        ⟨5, "Loop", some 5, none⟩, ⟨6, "Joints", some 3, none⟩] }
    let snapshot := build 1 data
    (∃ node ∈ snapshot.tree.nodes, node.id = 1 ∧ node.depth < 2 ∧
      node.children.map Tree.Node.category = [⟨2, "Floor", some 1, none⟩]) ∧
    (∃ node ∈ snapshot.tree.nodes, node.id = 4 ∧ node.depth < 2 ∧
      node.children.map Tree.Node.category = []) ∧
    snapshot.tree.rooms.map RoomNode.category =
      [⟨1, "Bathroom", none, none⟩, ⟨4, "Cellar", some 8, none⟩] ∧
    snapshot.category? 2 = some ⟨2, "Floor", some 1, none⟩ := by
  intro data snapshot
  obtain ⟨children, roots, carried⟩ := tree_agrees_with_list 1 data
  have bathroom : ∃ node ∈ snapshot.tree.nodes, node.id = 1 ∧ node.depth < 2 := by decide +kernel
  have cellar : ∃ node ∈ snapshot.tree.nodes, node.id = 4 ∧ node.depth < 2 := by decide +kernel
  have floor : ∃ node ∈ snapshot.tree.nodes, node.category = ⟨2, "Floor", some 1, none⟩ := by
    decide +kernel
  obtain ⟨room, roomListed, roomId, shallow⟩ := bathroom
  obtain ⟨orphan, orphanListed, orphanId, shallowToo⟩ := cellar
  obtain ⟨element, elementListed, same⟩ := floor
  refine ⟨⟨room, roomListed, roomId, shallow, ?_⟩, ⟨orphan, orphanListed, orphanId, shallowToo, ?_⟩,
    roots.trans (by decide +kernel), ?_⟩
  · rw [children room roomListed shallow, roomId]
    decide +kernel
  · rw [children orphan orphanListed shallowToo, orphanId]
    decide +kernel
  · have found := carried element elementListed
    rw [Tree.Node.id, same] at found
    exact found

end Fitout.Catalog.Snapshot
