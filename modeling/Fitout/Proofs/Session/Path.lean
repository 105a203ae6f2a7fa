import Fitout.Proofs.Catalog.Views
import Fitout.Proofs.Session.Command
import Fitout.Proofs.Session.Run

/-!
# Selections are paths of the tree

Choosing a category compares it with the one above only. A selection is therefore nested whatever
the catalog, and an access drops it unless the catalog still knows its categories under the same
parents and its room as a root. Together this puts the selection on a path of the tree.
-/

namespace Fitout

namespace Selection

/-- Each slot names the one above as its parent. -/
structure Nested (s : Selection) : Prop where
  element : ∀ e, s.element? = some e → ∃ r, s.room? = some r ∧ e.parentId = some r.id
  subElement : ∀ c, s.subElement? = some c →
    ∃ e, s.element? = some e ∧ c.parentId = some e.id

/-- The ids in the slots lead from a root down the tree. -/
structure IsPathOf (s : Selection) (tree : Category.Tree) : Prop where
  room : ∀ r, s.room? = some r → ∃ room ∈ tree.rooms, room.category.id = r.id
  element : ∀ e, s.element? = some e → ∃ r, s.room? = some r ∧
    ∃ room ∈ tree.rooms, room.category.id = r.id ∧
      ∃ element ∈ room.elements, element.category.id = e.id
  subElement : ∀ c, s.subElement? = some c → ∃ r e, s.room? = some r ∧ s.element? = some e ∧
    ∃ room ∈ tree.rooms, room.category.id = r.id ∧
      ∃ element ∈ room.elements, element.category.id = e.id ∧
        ∃ subElement ∈ element.subElements, subElement.id = c.id

theorem nested_empty : Nested .empty :=
  ⟨by rintro _ ⟨⟩, by rintro _ ⟨⟩⟩

theorem isPathOf_empty (tree : Category.Tree) : IsPathOf .empty tree :=
  ⟨by rintro _ ⟨⟩, by rintro _ ⟨⟩, by rintro _ ⟨⟩⟩

theorem nested_selectRoom (s : Selection) (r : Category) : (s.selectRoom r).Nested :=
  ⟨by rintro _ ⟨⟩, by rintro _ ⟨⟩⟩

theorem nested_of_selectElement {s t : Selection} {c : Category}
    (ok : s.selectElement c = .ok t) : t.Nested := by
  obtain ⟨r, _, named, rfl⟩ := of_selectElement_eq_ok ok
  refine ⟨?_, by rintro _ ⟨⟩⟩
  rintro e ⟨⟩
  exact ⟨r, rfl, named⟩

theorem Nested.of_selectSubElement {s t : Selection} {c : Category} (nested : s.Nested)
    (ok : s.selectSubElement c = .ok t) : t.Nested := by
  obtain ⟨e, chosen, named, rfl⟩ := of_selectSubElement_eq_ok ok
  refine ⟨?_, ?_⟩
  · rintro d ⟨⟩
    exact nested.element e chosen
  · rintro d ⟨⟩
    exact ⟨e, rfl, named⟩

theorem mem_chosen_iff {s : Selection} {c : Category} :
    c ∈ s.chosen ↔ s.room? = some c ∨ s.element? = some c ∨ s.subElement? = some c := by
  simp [chosen]

end Selection

namespace Plan

open Catalog Category

theorem isRoot_iff {tree : Tree} {id : Int} :
    tree.isRoot id = true ↔ ∃ room ∈ tree.rooms, room.category.id = id := by
  simp [Tree.isRoot]

theorem isCurrent_iff {snapshot : Snapshot} {c : Category} :
    isCurrent snapshot c = true ↔
      ∃ d, snapshot.category? c.id = some d ∧ d.parentId = c.parentId := by
  simp [isCurrent, Option.any_eq_true]

/-- What an access asks of a selection. -/
theorem outdated_isEmpty_iff {snapshot : Snapshot} {s : Selection} :
    (outdated snapshot s).isEmpty = true ↔
      (∀ c ∈ s.chosen, isCurrent snapshot c = true) ∧
        ∀ r, s.room? = some r → snapshot.tree.isRoot r.id = true := by
  simp [outdated, List.isEmpty_iff, List.filter_eq_nil_iff]

variable {ticket : Int} {data : Data} {s : Selection}

theorem isPathOf_of_outdated_isEmpty (nested : s.Nested)
    (borneOut : (outdated (.build ticket data) s).isEmpty = true) :
    s.IsPathOf (Tree.build data.categories) := by
  obtain ⟨current, root⟩ := outdated_isEmpty_iff.mp borneOut
  -- The entry of a chosen category names the same parent, which is the one chosen above it.
  have survivor {c : Category} (chosen : c ∈ s.chosen) :
      ∃ d, Survives data.categories d ∧ d.id = c.id ∧ d.parentId = c.parentId := by
    obtain ⟨d, found, sameParent⟩ := isCurrent_iff.mp (current c chosen)
    obtain ⟨survives, same⟩ := Snapshot.category?_build_eq_some_iff.mp found
    exact ⟨d, survives, same, sameParent⟩
  have element : ∀ e, s.element? = some e → ∃ r, s.room? = some r ∧
      ∃ room ∈ (Tree.build data.categories).rooms, room.category.id = r.id ∧
        ∃ element ∈ room.elements, element.category.id = e.id := by
    intro e chosen
    obtain ⟨r, roomChosen, named⟩ := nested.element e chosen
    obtain ⟨room, listed, sameRoom⟩ := isRoot_iff.mp (root r roomChosen)
    obtain ⟨d, survives, same, sameParent⟩ :=
      survivor (Selection.mem_chosen_iff.mpr (.inr (.inl chosen)))
    rw [← sameRoom, ← sameParent] at named
    obtain ⟨node, among, rfl⟩ := (Tree.mem_elements_iff listed).mpr ⟨survives, named⟩
    exact ⟨r, roomChosen, room, listed, sameRoom, node, among, same⟩
  refine ⟨fun r chosen => isRoot_iff.mp (root r chosen), element, ?_⟩
  intro c chosen
  obtain ⟨e, elementChosen, named⟩ := nested.subElement c chosen
  obtain ⟨r, roomChosen, room, listed, sameRoom, node, among, sameElement⟩ :=
    element e elementChosen
  obtain ⟨d, survives, same, sameParent⟩ :=
    survivor (Selection.mem_chosen_iff.mpr (.inr (.inr chosen)))
  rw [← sameElement, ← sameParent] at named
  have below := (Tree.mem_subElements_iff listed among).mpr ⟨survives, named⟩
  exact ⟨r, e, roomChosen, elementChosen, room, listed, sameRoom, node, among, sameElement,
    d, below, same⟩

/-- The entry of the room has the parent that it had when the room was chosen. -/
def RoomUnmoved (snapshot : Snapshot) (s : Selection) : Prop :=
  ∀ r d, s.room? = some r → snapshot.category? r.id = some d → d.parentId = r.parentId

theorem outdated_isEmpty_of_isPathOf (nested : s.Nested)
    (path : s.IsPathOf (Tree.build data.categories))
    (unmoved : RoomUnmoved (.build ticket data) s) :
    (outdated (.build ticket data) s).isEmpty = true := by
  apply outdated_isEmpty_iff.mpr
  refine ⟨?_, fun r chosen => isRoot_iff.mpr (path.room r chosen)⟩
  intro c chosen
  have found {d : Category} (survives : Survives data.categories d) (same : d.id = c.id) :
      (Snapshot.build ticket data).category? c.id = some d :=
    Snapshot.category?_build_eq_some_iff.mpr ⟨survives, same⟩
  apply isCurrent_iff.mpr
  -- The tree tells the parents of an element and of a sub-element, but not that of a room.
  rcases Selection.mem_chosen_iff.mp chosen with roomChosen | elementChosen | subElementChosen
  · obtain ⟨room, listed, same⟩ := path.room c roomChosen
    have roomFound := found (Tree.survives_of_mem_rooms listed) same
    exact ⟨room.category, roomFound, unmoved c room.category roomChosen roomFound⟩
  · obtain ⟨r, roomChosen, room, listed, sameRoom, node, among, same⟩ :=
      path.element c elementChosen
    obtain ⟨survives, below⟩ := (Tree.mem_elements_iff listed).mp ⟨node, among, rfl⟩
    obtain ⟨r', roomChosenToo, named⟩ := nested.element c elementChosen
    obtain rfl := Option.some.inj (roomChosen.symm.trans roomChosenToo)
    rw [sameRoom, ← named] at below
    exact ⟨node.category, found survives same, below⟩
  · obtain ⟨r, e, _, elementChosen, room, listed, _, node, among, sameElement, d, under, same⟩ :=
      path.subElement c subElementChosen
    obtain ⟨survives, below⟩ := (Tree.mem_subElements_iff listed among).mp under
    obtain ⟨e', elementChosenToo, named⟩ := nested.subElement c subElementChosen
    obtain rfl := Option.some.inj (elementChosen.symm.trans elementChosenToo)
    rw [sameElement, ← named] at below
    exact ⟨d, found survives same, below⟩

theorem nested_of_moves {store : Store} {s t : Selection} (moves : Moves store s t)
    (nested : s.Nested) : t.Nested := by
  cases moves with
  | kept => exact nested
  | reset => exact Selection.nested_empty
  | room => exact Selection.nested_selectRoom _ _
  | element _ _ ok => exact Selection.nested_of_selectElement ok
  | subElement _ _ ok => exact nested.of_selectSubElement ok

/-- A command on a path of the tree ends on a path of the tree. -/
theorem isPathOf_of_moves {store : Store} {s t : Selection}
    (installed : store.installed = some (.build ticket data)) (moves : Moves store s t)
    (path : s.IsPathOf (Tree.build data.categories)) :
    t.IsPathOf (Tree.build data.categories) := by
  cases moves with
  | kept => exact path
  | reset => exact Selection.isPathOf_empty _
  | @room snapshot c present listed root =>
    obtain rfl := Option.some.inj (installed.symm.trans present)
    refine ⟨?_, by rintro _ ⟨⟩, by rintro _ ⟨⟩⟩
    rintro r ⟨⟩
    exact isRoot_iff.mp root
  | @element snapshot c _ present listed ok =>
    obtain rfl := Option.some.inj (installed.symm.trans present)
    obtain ⟨r, roomChosen, named, rfl⟩ := Selection.of_selectElement_eq_ok ok
    obtain ⟨room, roomListed, same⟩ := path.room r roomChosen
    obtain ⟨survives, _⟩ := Snapshot.category?_build_eq_some_iff.mp listed
    rw [← same] at named
    obtain ⟨node, among, rfl⟩ := (Tree.mem_elements_iff roomListed).mpr ⟨survives, named⟩
    refine ⟨?_, ?_, by rintro _ ⟨⟩⟩
    · rintro _ ⟨⟩
      exact ⟨room, roomListed, same⟩
    · rintro _ ⟨⟩
      exact ⟨r, rfl, room, roomListed, same, node, among, rfl⟩
  | @subElement snapshot c _ present listed ok =>
    obtain rfl := Option.some.inj (installed.symm.trans present)
    obtain ⟨e, elementChosen, named, rfl⟩ := Selection.of_selectSubElement_eq_ok ok
    obtain ⟨r, roomChosen, room, roomListed, sameRoom, node, among, sameElement⟩ :=
      path.element e elementChosen
    obtain ⟨survives, _⟩ := Snapshot.category?_build_eq_some_iff.mp listed
    rw [← sameElement] at named
    have below := (Tree.mem_subElements_iff roomListed among).mpr ⟨survives, named⟩
    refine ⟨path.room, ?_, ?_⟩
    · rintro _ ⟨⟩
      exact path.element e elementChosen
    · rintro _ ⟨⟩
      exact ⟨r, e, roomChosen, rfl, room, roomListed, sameRoom, node, among, sameElement,
        c, below, rfl⟩

theorem sync_cases (snapshot : Snapshot) (plan : Plan) :
    ((outdated snapshot plan.selection).isEmpty = true ∧ plan.sync snapshot = plan) ∨
      plan.sync snapshot = { plan with selection := .empty } := by
  unfold sync
  by_cases borneOut : (outdated snapshot plan.selection).isEmpty = true
  · rw [if_pos borneOut]
    exact .inl ⟨borneOut, rfl⟩
  · rw [if_neg borneOut]
    exact .inr rfl

theorem cart_sync (snapshot : Snapshot) (plan : Plan) : (plan.sync snapshot).cart = plan.cart := by
  rcases plan.sync_cases snapshot with ⟨_, same⟩ | dropped
  · rw [same]
  · rw [dropped]

theorem sync_eq_self {snapshot : Snapshot} {plan : Plan}
    (borneOut : (outdated snapshot plan.selection).isEmpty = true) : plan.sync snapshot = plan :=
  if_pos borneOut

theorem outdated_isEmpty_sync (snapshot : Snapshot) (plan : Plan) :
    (outdated snapshot (plan.sync snapshot).selection).isEmpty = true := by
  rcases plan.sync_cases snapshot with ⟨borneOut, same⟩ | dropped
  · rw [same]
    exact borneOut
  · rw [dropped]
    rfl

/-- A command on a selection that the catalog bears out ends on one. -/
theorem outdated_isEmpty_of_moves {store : Store} {snapshot : Snapshot} {s t : Selection}
    (installed : store.installed = some snapshot) (moves : Moves store s t)
    (borneOut : (outdated snapshot s).isEmpty = true) :
    (outdated snapshot t).isEmpty = true := by
  obtain ⟨current, root⟩ := outdated_isEmpty_iff.mp borneOut
  have fromCatalog {c : Category} (listed : snapshot.category? c.id = some c) :
      isCurrent snapshot c = true :=
    isCurrent_iff.mpr ⟨c, listed, rfl⟩
  cases moves with
  | kept => exact borneOut
  | reset => rfl
  | @room other c present listed isRoot =>
    obtain rfl := Option.some.inj (installed.symm.trans present)
    apply outdated_isEmpty_iff.mpr
    constructor
    · intro d chosen
      obtain rfl := List.mem_singleton.mp chosen
      exact fromCatalog listed
    · rintro r ⟨⟩
      exact isRoot
  | @element other c _ present listed ok =>
    obtain rfl := Option.some.inj (installed.symm.trans present)
    obtain ⟨r, roomChosen, _, rfl⟩ := Selection.of_selectElement_eq_ok ok
    apply outdated_isEmpty_iff.mpr
    constructor
    · intro d chosen
      rcases Selection.mem_chosen_iff.mp chosen with isRoom | isElement | none
      · exact current d (Selection.mem_chosen_iff.mpr (.inl (roomChosen.trans isRoom)))
      · obtain rfl := Option.some.inj isElement
        exact fromCatalog listed
      · cases none
    · rintro _ ⟨⟩
      exact root r roomChosen
  | @subElement other c _ present listed ok =>
    obtain rfl := Option.some.inj (installed.symm.trans present)
    obtain ⟨e, elementChosen, _, rfl⟩ := Selection.of_selectSubElement_eq_ok ok
    apply outdated_isEmpty_iff.mpr
    refine ⟨fun d chosen => ?_, root⟩
    rcases Selection.mem_chosen_iff.mp chosen with isRoom | isElement | isSubElement
    · exact current d (Selection.mem_chosen_iff.mpr (.inl isRoom))
    · exact current d (Selection.mem_chosen_iff.mpr (.inr (.inl (elementChosen.trans isElement))))
    · obtain rfl := Option.some.inj isSubElement
      exact fromCatalog listed

theorem nested_sync (snapshot : Snapshot) (plan : Plan) (nested : plan.selection.Nested) :
    (plan.sync snapshot).selection.Nested := by
  rcases plan.sync_cases snapshot with ⟨_, same⟩ | dropped
  · rw [same]
    exact nested
  · rw [dropped]
    exact Selection.nested_empty

theorem isPathOf_sync {plan : Plan} (nested : plan.selection.Nested) (ticket : Int) (data : Data) :
    (plan.sync (.build ticket data)).selection.IsPathOf (Tree.build data.categories) := by
  rcases plan.sync_cases (.build ticket data) with ⟨borneOut, same⟩ | dropped
  · rw [same]
    exact isPathOf_of_outdated_isEmpty nested borneOut
  · rw [dropped]
    exact Selection.isPathOf_empty _

end Plan

namespace Configurator

variable {T : Type} [Sub T] [LT T] [DecidableLT T]

omit [Sub T] [LT T] [DecidableLT T] in
theorem synced_eq_sync {c : Configurator T} {snapshot : Catalog.Snapshot}
    (installed : c.store.installed = some snapshot) (plan : Plan) :
    c.synced plan = plan.sync snapshot := by
  rw [synced, installed]

omit [Sub T] [LT T] [DecidableLT T] in
theorem cart_synced (c : Configurator T) (plan : Plan) : (c.synced plan).cart = plan.cart := by
  cases installed : c.store.installed with
  | none => rw [synced, installed]
  | some snapshot => rw [synced_eq_sync installed, Plan.cart_sync]

theorem nested_run (names : Pricing.MarketNames) (ttl : T) (actions : List (Action T)) :
    ∀ s ∈ ((start names ttl).run actions).registry.sessions, s.plan.selection.Nested := by
  apply forall_plans_run (P := fun plan => plan.selection.Nested)
  · exact Selection.nested_empty
  · exact Plan.nested_sync
  · intro store names plan command done nested ok
    exact Plan.nested_of_moves (Plan.moves_run ok) nested
  · intro s listed
    cases listed

/-- What an access leaves of a plan. -/
structure Spares (c : Configurator T) (before after : Plan) : Prop where
  cart : after.cart = before.cart
  market : after.market = before.market
  selection : after.selection = before.selection ∨ after.selection = .empty
  path : ∀ snapshot, c.store.installed = some snapshot →
    before.selection.IsPathOf snapshot.tree → Plan.RoomUnmoved snapshot before.selection →
    after.selection = before.selection

omit [Sub T] [LT T] [DecidableLT T] in
theorem spares_synced {c : Configurator T} {plan : Plan} (nested : plan.selection.Nested)
    (built : ∀ snapshot, c.store.installed = some snapshot →
      ∃ ticket data, snapshot = .build ticket data) : c.Spares plan (c.synced plan) := by
  have unchanged : c.Spares plan plan := ⟨rfl, rfl, .inl rfl, fun _ _ _ _ => rfl⟩
  cases installed : c.store.installed with
  | none =>
    rw [synced, installed]
    exact unchanged
  | some snapshot =>
    obtain ⟨ticket, data, rfl⟩ := built snapshot installed
    rw [synced_eq_sync installed]
    rcases plan.sync_cases (.build ticket data) with ⟨_, same⟩ | dropped
    · rw [same]
      exact unchanged
    · refine ⟨?_, ?_, .inr ?_, ?_⟩
      · rw [dropped]
      · rw [dropped]
      · rw [dropped]
      · intro other present path unmoved
        obtain rfl := Option.some.inj (installed.symm.trans present)
        rw [Plan.sync, if_pos (Plan.outdated_isEmpty_of_isPathOf nested path unmoved)]

/-- Whatever happened before, a session that is returned while a snapshot is installed has a path
of its tree selected, and reading a session spares all of it but a selection that is outdated. -/
theorem returned_selections_are_paths (names : Pricing.MarketNames) (ttl : T)
    (actions : List (Action T)) :
    let c := (start names ttl).run actions
    (∀ action session snapshot, c.returned? action = some session →
      (c.step action).store.installed = some snapshot →
      session.plan.selection.IsPathOf snapshot.tree) ∧
    ∀ now id before, (c.registry.evict now).find? id = some before →
      ∃ visited, (c.visit now id .get).result = .ok visited ∧
        (c.visit now id .get).configurator.registry.find? id = some visited.session ∧
        c.Spares before.plan visited.session.plan := by
  intro c
  have nested {s : Session T} (listed : s ∈ c.registry.sessions) : s.plan.selection.Nested :=
    nested_run names ttl actions s listed
  have built (snapshot : Catalog.Snapshot) (installed : c.store.installed = some snapshot) :
      ∃ ticket data, snapshot = .build ticket data :=
    exists_build_of_installed installed
  constructor
  · intro action session snapshot returned installed
    cases action with
    | create now =>
      obtain rfl := Option.some.inj returned
      exact Selection.isPathOf_empty _
    | visit now id command =>
      obtain ⟨before, done, found, ran, rfl⟩ := of_returned?_visit_eq_some returned
      rw [step, store_visit] at installed
      obtain ⟨ticket, data, rfl⟩ := built snapshot installed
      have listed := Registry.mem_sessions_evict (Registry.of_find?_eq_some found).1
      have path := Plan.isPathOf_sync (nested listed) ticket data
      rw [← synced_eq_sync installed] at path
      exact Plan.isPathOf_of_moves installed (Plan.moves_run ran) path
    | delete id | takeTicket | install ticket data => cases returned
  · intro now id before found
    obtain ⟨here, rfl⟩ := Registry.of_find?_eq_some found
    obtain ⟨answered, after⟩ := c.visit_done now before.id .get found rfl
    refine ⟨_, answered, ?_, spares_synced (nested (Registry.mem_sessions_evict here)) built⟩
    rw [after]
    exact Registry.find?_put (Registry.find?_put found)

/-- An element is chosen under a room, and both are found in the tree. -/
theorem chosen_element_is_on_path :
    let room : Category := ⟨1, "Bathroom", none, none⟩
    let element : Category := ⟨2, "Floor", some 1, none⟩
    let data : Catalog.Data := { Catalog.Data.empty with categories := [element, room] }
    let c : Configurator Int := (start ⟨none, none⟩ 60).run
      [.install 1 data, .create 0, .visit 1 "s1" (.selectRoom 1)]
    ∃ session, c.returned? (.visit 2 "s1" (.selectElement 2)) = some session ∧
      session.plan.selection = ⟨some room, some element, none⟩ ∧
      session.plan.selection.IsPathOf (Category.Tree.build [element, room]) := by
  intro room element data c
  have chosen : (c.returned? (.visit 2 "s1" (.selectElement 2))).map (·.plan.selection) =
      some ⟨some room, some element, none⟩ := by decide +kernel
  have installed : (c.step (.visit 2 "s1" (.selectElement 2))).store.installed =
      some (.build 1 data) := by
    simp only [c, run, List.foldl_cons, List.foldl_nil, step, store_visit]
    rfl
  obtain ⟨session, returned, selected⟩ := Option.map_eq_some_iff.mp chosen
  obtain ⟨paths, _⟩ := returned_selections_are_paths ⟨none, none⟩ (60 : Int)
    [.install 1 data, .create 0, .visit 1 "s1" (.selectRoom 1)]
  exact ⟨session, returned, selected, paths _ session _ returned installed⟩

end Configurator

end Fitout
