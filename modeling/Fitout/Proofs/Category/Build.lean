import Fitout.Proofs.Category.Placement

/-!
# What becomes of every id

The entry that survives for an id has one node if its chain ends within two steps, and an issue
otherwise. Apart from that, issues are raised for repeated ids and for rooms that name a parent.
-/

namespace Fitout.Category.Tree

def occurrences (entries : List Category) (id : Int) : Nat :=
  (entries.map Category.id).count id

/-- The issues that the tree has with an id, in order. -/
def issuesAbout (tree : Tree) (id : Int) : List TreeIssue :=
  tree.issues.filter (·.categoryId == id)

/-- A room is a root, and any other node is in the child list of the node found for its parent. -/
def Attached (tree : Tree) : Node → Prop
  | .room room => room ∈ tree.rooms
  | .element element => ∃ room, element.category.parentId = some room.category.id ∧
      tree.find? room.category.id = some (.room room) ∧ element ∈ room.elements
  | .subElement c => ∃ element, c.parentId = some element.category.id ∧
      tree.find? element.category.id = some (.element element) ∧ c ∈ element.subElements

/-- Of all nodes, this one is the only one with the id of the category. -/
structure Holds (tree : Tree) (c : Category) (node : Node) : Prop where
  category : node.category = c
  only : tree.nodes.filter (·.id == c.id) = [node]
  found : tree.find? c.id = some node
  attached : tree.Attached node

/-- No node has this id. -/
structure LeavesOut (tree : Tree) (id : Int) : Prop where
  none : tree.nodes.filter (·.id == id) = []
  missed : tree.find? id = Option.none

/-- What a tree makes of a surviving entry, by the chain of its parents. -/
structure Classifies (entries : List Category) (tree : Tree) (c : Category) : Prop where
  exactlyOne :
    ((∃ steps, EndsAfter entries c steps ∧
        ∀ other, EndsAfter entries c other → other = steps) ∧ ¬ NeverEnds entries c) ∨
      (NeverEnds entries c ∧ ∀ steps, ¬ EndsAfter entries c steps)
  placed : ∀ steps ≤ 2, EndsAfter entries c steps → ∃ node, tree.Holds c node ∧ node.depth = steps
  rootIssues : EndsAfter entries c 0 →
    tree.issuesAbout c.id = List.replicate (occurrences entries c.id - 1) (.duplicate c.id) ++
      (c.parentId.map (TreeIssue.orphan c.id)).toList
  childIssues : ∀ steps, 0 < steps → steps ≤ 2 → EndsAfter entries c steps →
    tree.issuesAbout c.id = List.replicate (occurrences entries c.id - 1) (.duplicate c.id)
  tooDeep : ∀ steps > 2, EndsAfter entries c steps → tree.LeavesOut c.id ∧
    tree.issuesAbout c.id = List.replicate (occurrences entries c.id - 1) (.duplicate c.id) ++
      [.tooDeep c.id steps]
  looping : NeverEnds entries c → tree.LeavesOut c.id ∧ ∃ issue : TreeIssue, issue.kind = "cycle" ∧
    tree.issuesAbout c.id = List.replicate (occurrences entries c.id - 1) (.duplicate c.id) ++
      [issue]

variable {entries : List Category}

theorem filter_key_eq_singleton {α : Type} {key : α → Int} {list : List α}
    (distinct : (list.map key).Nodup) {a : α} (member : a ∈ list) :
    list.filter (fun b => key b == key a) = [a] := by
  induction list with
  | nil => cases member
  | cons first rest inductionHypothesis =>
    obtain ⟨fresh, distinctRest⟩ := List.nodup_cons.mp distinct
    rcases List.mem_cons.mp member with rfl | later
    · have others : rest.filter (fun b => key b == key a) = [] := by
        apply List.filter_eq_nil_iff.mpr
        intro b listed same
        exact fresh (List.mem_map.mpr ⟨b, listed, beq_iff_eq.mp same⟩)
      simp [others]
    · have apart : key first ≠ key a := by
        intro same
        exact fresh (List.mem_map.mpr ⟨a, later, same.symm⟩)
      rw [List.filter_cons_of_neg (by simpa using apart)]
      exact inductionHypothesis distinctRest later

theorem find?_build_eq_nodeOf {c : Category} {steps : Nat} (near : steps ≤ 2)
    (member : c ∈ layer entries steps) :
    (build entries).find? c.id = some (nodeOf entries c steps) := by
  apply (find?_eq_some_iff (nodup_nodes_build entries)).mpr
  refine ⟨nodeOf_mem_nodes near member, ?_⟩
  rw [Node.id, category_nodeOf]

theorem attached_nodeOf {c : Category} {steps : Nat} (near : steps ≤ 2)
    (member : c ∈ layer entries steps) : (build entries).Attached (nodeOf entries c steps) := by
  match steps, near with
  | 0, _ =>
    simp only [nodeOf, Attached, rooms_build]
    exact List.mem_map_of_mem member
  | 1, _ =>
    obtain ⟨parent, parentMember, named⟩ := exists_parent_of_mem_layer member
    refine ⟨roomNode (layer entries 1) (layer entries 2) parent, named, ?_, ?_⟩
    · exact find?_build_eq_nodeOf (by omega) parentMember
    · exact List.mem_map_of_mem (mem_childrenOf_iff.mpr ⟨member, named⟩)
  | 2, _ =>
    obtain ⟨parent, parentMember, named⟩ := exists_parent_of_mem_layer member
    refine ⟨elementNode (layer entries 2) parent, named, ?_, ?_⟩
    · exact find?_build_eq_nodeOf (by omega) parentMember
    · exact mem_childrenOf_iff.mpr ⟨member, named⟩

theorem holds_nodeOf {c : Category} {steps : Nat} (near : steps ≤ 2)
    (member : c ∈ layer entries steps) : (build entries).Holds c (nodeOf entries c steps) := by
  refine ⟨category_nodeOf c steps, ?_, find?_build_eq_nodeOf near member,
    attached_nodeOf near member⟩
  have only := filter_key_eq_singleton (nodup_nodes_build entries) (nodeOf_mem_nodes near member)
  rw [Node.id, category_nodeOf] at only
  exact only

theorem leavesOut_of_not_endsAfter {c : Category} (survives : Survives entries c)
    (away : ∀ steps ≤ 2, ¬ EndsAfter entries c steps) : (build entries).LeavesOut c.id := by
  have absent : ∀ node ∈ (build entries).nodes, node.id ≠ c.id := by
    intro node listed same
    obtain ⟨steps, near, d, member, rfl⟩ := mem_nodes_build_iff.mp listed
    obtain ⟨dSurvives, ends⟩ := mem_layer_iff.mp member
    rw [Node.id, category_nodeOf] at same
    obtain rfl := dSurvives.eq survives same
    exact away steps near ends
  refine ⟨?_, find?_eq_none_iff.mpr absent⟩
  apply List.filter_eq_nil_iff.mpr
  intro node listed same
  exact absent node listed (beq_iff_eq.mp same)

theorem count_repeatedIds (seen : List Int) (entries : List Category) (id : Int) :
    (repeatedIds seen entries).count id =
      if id ∈ seen then occurrences entries id else occurrences entries id - 1 := by
  induction entries generalizing seen with
  | nil => simp [repeatedIds, occurrences]
  | cons first rest inductionHypothesis =>
    have counted : occurrences (first :: rest) id =
        occurrences rest id + if first.id = id then 1 else 0 := by
      simp [occurrences, List.count_cons]
    rw [counted, repeatedIds]
    by_cases again : first.id ∈ seen
    · rw [if_pos (List.contains_iff_mem.mpr again), List.count_cons, inductionHypothesis]
      by_cases same : first.id = id
      · simp [← same, again]
      · simp [same]
    · rw [if_neg (mt List.contains_iff_mem.mp again), inductionHypothesis]
      by_cases same : first.id = id
      · simp [← same, again]
      · simp [same, Ne.symm same]

theorem categoryId_of_issue?_eq_some {s : Survey} {c : Category} {issue : TreeIssue}
    (raised : issue? s c = some issue) : issue.categoryId = c.id := by
  unfold issue? at raised
  split at raised
  · obtain rfl := Option.some.inj raised
    split <;> rfl
  · obtain ⟨parent, _, rfl⟩ := Option.map_eq_some_iff.mp raised
    rfl
  · obtain ⟨_, same⟩ := Option.ite_none_right_eq_some.mp raised
    obtain rfl := Option.some.inj same
    rfl

theorem filter_duplicates (entries : List Category) (id : Int) :
    ((repeatedIds [] entries).map TreeIssue.duplicate).filter (·.categoryId == id) =
      List.replicate (occurrences entries id - 1) (.duplicate id) := by
  rw [List.filter_map]
  change ((repeatedIds [] entries).filter (· == id)).map TreeIssue.duplicate = _
  rw [List.filter_beq, List.map_replicate, count_repeatedIds, if_neg List.not_mem_nil]

theorem filter_filterMap_issue? (s : Survey) {categories : List Category}
    (distinct : (categories.map Category.id).Nodup) {c : Category} (listed : c ∈ categories) :
    (categories.filterMap (issue? s)).filter (·.categoryId == c.id) = (issue? s c).toList := by
  have byId (d : Category) : (issue? s d).filter (·.categoryId == c.id) =
      if d.id == c.id then issue? s d else none := by
    cases raised : issue? s d with
    | none => simp
    | some issue => simp [Option.filter_some, categoryId_of_issue?_eq_some raised]
  rw [List.filter_filterMap, funext byId, ← List.filterMap_filter,
    filter_key_eq_singleton distinct listed]
  cases raised : issue? s c with
  | none => simp [raised]
  | some issue => simp [raised]

/-- The issues about an id are its repetitions and what is wrong with the entry that survives. -/
theorem issuesAbout_build {c : Category} (survives : Survives entries c) :
    (build entries).issuesAbout c.id =
      List.replicate (occurrences entries c.id - 1) (.duplicate c.id) ++
        (issue? (survey (latest entries)) c).toList := by
  rw [issuesAbout, build_eq]
  simp only [issuesOf, List.filter_append]
  rw [filter_duplicates,
    filter_filterMap_issue? _ (nodup_latest entries) (mem_latest_iff.mpr survives)]

theorem exists_mem_of_mem_issues {issue : TreeIssue} (raised : issue ∈ (build entries).issues) :
    ∃ entry ∈ entries, entry.id = issue.categoryId := by
  rw [build_eq] at raised
  rcases List.mem_append.mp raised with repeated | own
  · obtain ⟨id, again, rfl⟩ := List.mem_map.mp repeated
    have positive := List.count_pos_iff.mpr again
    rw [count_repeatedIds, if_neg List.not_mem_nil] at positive
    have listed : id ∈ entries.map Category.id := List.count_pos_iff.mp (by
      rw [occurrences] at positive
      omega)
    exact List.mem_map.mp listed
  · obtain ⟨c, kept, raisedBy⟩ := List.mem_filterMap.mp own
    exact ⟨c, mem_latest_of_mem kept, (categoryId_of_issue?_eq_some raisedBy).symm⟩

theorem classifies_build {c : Category} (survives : Survives entries c) :
    Classifies entries (build entries) c where
  exactlyOne := chain_cases survives
  placed := by
    intro steps near ends
    have member := mem_layer_iff.mpr ⟨survives, ends⟩
    exact ⟨nodeOf entries c steps, holds_nodeOf near member, depth_nodeOf c near⟩
  rootIssues := by
    intro ends
    rw [issuesAbout_build survives, issue?, (depth_eq_ends_iff survives).mpr ends]
    rfl
  childIssues := by
    intro steps positive near ends
    rw [issuesAbout_build survives, issue?, (depth_eq_ends_iff survives).mpr ends]
    obtain ⟨steps, rfl⟩ := Nat.exists_eq_succ_of_ne_zero (Nat.ne_of_gt positive)
    have notDeep : ¬ deepest < steps + 1 := by
      simp only [deepest]
      omega
    simp [notDeep]
  tooDeep := by
    intro steps far ends
    constructor
    · apply leavesOut_of_not_endsAfter survives
      intro other near otherEnds
      have := ends.unique otherEnds
      omega
    · rw [issuesAbout_build survives, issue?, (depth_eq_ends_iff survives).mpr ends]
      obtain ⟨steps, rfl⟩ := Nat.exists_eq_succ_of_ne_zero (Nat.ne_of_gt (Nat.zero_lt_of_lt far))
      simp [deepest, far]
  looping := by
    intro endless
    constructor
    · apply leavesOut_of_not_endsAfter survives
      intro steps _
      exact endless.not_endsAfter steps
    · rw [issuesAbout_build survives, issue?, (depth_eq_loops_iff_neverEnds survives).mpr endless]
      refine ⟨_, ?_, rfl⟩
      split <;> rfl

theorem pairwise_precedes_of_sublist {list : List Category} (kept : list.Sublist (latest entries)) :
    list.Pairwise (Precedes entries) :=
  (pairwise_precedes_latest entries).sublist kept

theorem pairwise_precedes_children {node : Node} (listed : node ∈ (build entries).nodes) :
    (node.children.map Node.category).Pairwise (Precedes entries) := by
  obtain ⟨steps, near, c, _, rfl⟩ := mem_nodes_build_iff.mp listed
  apply pairwise_precedes_of_sublist
  by_cases last : steps = 2
  · rw [last, children_nodeOf_two]
    exact List.nil_sublist _
  · have entriesBelow : (nodeOf entries c steps).children.map Node.category =
        childrenOf (layer entries (steps + 1)) (some c.id) := by
      rw [children_nodeOf c (by omega), List.map_map]
      simp [Function.comp_def]
    rw [entriesBelow]
    exact List.filter_sublist.trans (layer_sublist entries (steps + 1))

/-- The tree is built from every list, no lookup on the way fails, and every id falls into one
class. Nothing else is in the tree or reported, and siblings keep their order. -/
theorem build_classifies_every_id (entries : List Category) :
    assemble? entries = some (build entries) ∧
    (∀ c ∈ latest entries, ∃ d, (survey (latest entries)).depths.lookup c.id = some d) ∧
    (∀ entry ∈ entries, ∃ c, Survives entries c ∧ c.id = entry.id ∧
      (∀ other, Survives entries other → other.id = entry.id → other = c) ∧
      Classifies entries (build entries) c) ∧
    (∀ node ∈ (build entries).nodes, Survives entries node.category) ∧
    (∀ issue ∈ (build entries).issues, ∃ entry ∈ entries, entry.id = issue.categoryId) ∧
    ((build entries).rooms.map RoomNode.category).Pairwise (Precedes entries) ∧
    ∀ node ∈ (build entries).nodes,
      (node.children.map Node.category).Pairwise (Precedes entries) := by
  refine ⟨assemble?_eq_build entries, ?_, ?_, ?_, ?_, ?_, ?_⟩
  · intro c kept
    exact (survey_settles (nodup_latest entries)).known c.id (List.mem_map_of_mem kept)
  · intro entry listed
    obtain ⟨c, survives, same⟩ := exists_survives_of_mem listed
    refine ⟨c, survives, same, ?_, classifies_build survives⟩
    intro other otherSurvives otherSame
    exact otherSurvives.eq survives (otherSame.trans same.symm)
  · intro node listed
    exact survives_of_mem_nodes listed
  · intro issue raised
    exact exists_mem_of_mem_issues raised
  · apply pairwise_precedes_of_sublist
    have roots : (build entries).rooms.map RoomNode.category = layer entries 0 := by
      rw [rooms_build, List.map_map]
      simp [Function.comp_def, roomNode]
    rw [roots]
    exact layer_sublist entries 0
  · intro node listed
    exact pairwise_precedes_children listed

/-- A sub-element is placed although the entries of its element and its room come after it. -/
theorem child_before_parents_is_placed :
    let subElement : Category := ⟨3, "Tiles", some 2, none⟩
    let element : Category := ⟨2, "Floor", some 1, none⟩
    let room : Category := ⟨1, "Bathroom", none, none⟩
    ∃ node, (build [subElement, element, room]).find? 3 = some node ∧ node.depth = 2 := by
  intro subElement element room
  have first : Survives [subElement, element, room] subElement :=
    ⟨[], [element, room], rfl, by simp [subElement, element, room]⟩
  have second : Survives [subElement, element, room] element :=
    ⟨[subElement], [room], rfl, by simp [element, room]⟩
  have third : Survives [subElement, element, room] room :=
    ⟨[subElement, element], [], rfl, by simp⟩
  have ends : EndsAfter [subElement, element, room] subElement 2 := by
    apply endsAfter_succ_iff.mpr
    refine ⟨element, second, rfl, endsAfter_succ_iff.mpr ⟨room, third, rfl, ?_⟩⟩
    exact endsAfter_zero_iff.mpr (by simp [room])
  obtain ⟨_, _, classes, _⟩ := build_classifies_every_id [subElement, element, room]
  obtain ⟨c, survives, same, _, classified⟩ := classes subElement List.mem_cons_self
  obtain rfl := first.eq survives same.symm
  obtain ⟨node, holds, depth⟩ := classified.placed 2 (Nat.le_refl 2) ends
  exact ⟨node, holds.found, depth⟩

end Fitout.Category.Tree
