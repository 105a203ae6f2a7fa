import Fitout.Proofs.Category.Search
import Fitout.Proofs.Session.Offer

/-!
# Drilling down to products

The products that are listed are those of the chosen sub-element. A choice that can be made is still
made at the next access, so the way down to any sub-element of the tree can be walked choice by
choice; and no run leaves a sub-element chosen that lies anywhere else. Times are exact numbers here
where it matters that a session lives on.
-/

namespace Fitout

namespace Category.Tree

theorem exists_node_at_depth_two_iff {tree : Tree} {id : Int} :
    (∃ node ∈ tree.nodes, node.depth = 2 ∧ node.id = id) ↔
      ∃ room ∈ tree.rooms, ∃ element ∈ room.elements, ∃ c ∈ element.subElements, c.id = id := by
  constructor
  · rintro ⟨node, listed, deep, same⟩
    obtain ⟨room, roomListed, reaches⟩ := mem_nodes_iff_reaches.mp listed
    cases reaches with
    | self => cases deep
    | child childListed below =>
      obtain ⟨element, elementListed, rfl⟩ := List.mem_map.mp childListed
      rcases below.of_element with rfl | ⟨c, member, rfl⟩
      · cases deep
      · exact ⟨room, roomListed, element, elementListed, c, member, same⟩
  · rintro ⟨room, roomListed, element, elementListed, c, member, same⟩
    refine ⟨.subElement c, mem_nodes_iff_reaches.mpr ⟨room, roomListed, ?_⟩, rfl, same⟩
    exact .child (List.mem_map_of_mem elementListed) (.child (List.mem_map_of_mem member) (.self _))

end Category.Tree

open Category Selection

theorem Product.ofSubElement_map (products : List Product) (chosen? : Option Category) :
    Product.ofSubElement products (chosen?.map Category.id) =
      match chosen? with
      | none => []
      | some chosen => products.filter (·.categoryId == some chosen.id) := by
  cases chosen? with
  | none => rfl
  | some chosen => rfl

namespace Plan

open Catalog

theorem run_listProducts {store : Store} {snapshot : Snapshot} (names : Pricing.MarketNames)
    (plan : Plan) (installed : store.installed = some snapshot) :
    plan.run store names .listProducts = .ok {
      plan
      answer := .products (Product.ofSubElement snapshot.products
        (plan.selection.subElement?.map Category.id)) } := by
  simp only [run, listProducts, current_eq installed]
  rfl

end Plan

namespace Configurator

open Catalog

section Runs

variable {T : Type} [Sub T] [LT T] [DecidableLT T]

def Action.time? : Action T → Option T
  | .create now => some now
  | .visit now _ _ => some now
  | .delete _ | .takeTicket | .install _ _ => none

theorem lastSeen_visit {c : Configurator T} {now : T} {id : String} {command : Plan.Command}
    {s : Session T} (listed : s ∈ (c.visit now id command).configurator.registry.sessions) :
    s ∈ c.registry.sessions ∨ s.lastSeen = now := by
  rcases c.visit_leaves now id command with left | ⟨seen, _, lastSeen, left⟩
  · rw [left] at listed
    exact .inl (Registry.mem_sessions_evict listed)
  · rw [left] at listed
    rcases Registry.mem_sessions_put listed with rfl | old
    · exact .inr lastSeen
    · exact .inl (Registry.mem_sessions_evict old)

theorem lastSeen_step {c : Configurator T} {action : Action T} {s : Session T}
    (listed : s ∈ (c.step action).registry.sessions) :
    s ∈ c.registry.sessions ∨ action.time? = some s.lastSeen := by
  cases action with
  | create now =>
    rcases Registry.mem_sessions_enter listed with rfl | old
    · exact .inr rfl
    · exact .inl (Registry.mem_sessions_evict old)
  | delete id =>
    simp only [step, deleteSession] at listed
    split at listed
    · exact .inl listed
    · exact .inl (List.mem_filter.mp listed).1
  | visit now id command =>
    exact (lastSeen_visit listed).imp_right fun seen => congrArg some seen.symm
  | takeTicket => exact .inl listed
  | install ticket data => exact .inl listed

/-- A session was last seen at the time of one of the actions. -/
theorem lastSeen_run {c : Configurator T} {actions : List (Action T)} {s : Session T}
    (listed : s ∈ (c.run actions).registry.sessions) :
    s ∈ c.registry.sessions ∨ s.lastSeen ∈ actions.filterMap Action.time? := by
  induction actions generalizing c with
  | nil => exact .inl listed
  | cons action actions inductionHypothesis =>
    rcases inductionHypothesis listed with earlier | seen
    · rcases lastSeen_step earlier with old | seen
      · exact .inl old
      · exact .inr (List.mem_filterMap.mpr ⟨action, List.mem_cons_self, seen⟩)
    · obtain ⟨other, member, same⟩ := List.mem_filterMap.mp seen
      exact .inr (List.mem_filterMap.mpr ⟨other, List.mem_cons_of_mem _ member, same⟩)

/-- A choice that is tried at some time. -/
structure Choice (T : Type) where
  now : T
  category : Int
  slot : Slot

def Choice.action (id : String) (choice : Choice T) : Action T :=
  .visit choice.now id (.choose choice.category choice.slot)

/-- Try choices one after the other, whether they can be made or not. -/
def drill (c : Configurator T) (id : String) (choices : List (Choice T)) : Configurator T :=
  c.run (choices.map (Choice.action id))

/-- A product is listed for a session at this time. -/
def Lists (c : Configurator T) (now : T) (id : String) (product : Product) : Prop :=
  ∃ visited products, (c.visit now id .listProducts).result = .ok visited ∧
    visited.answer = .products products ∧ product ∈ products

theorem store_drill (c : Configurator T) (id : String) (choices : List (Choice T)) :
    (c.drill id choices).store = c.store := by
  induction choices generalizing c with
  | nil => rfl
  | cons choice choices inductionHypothesis =>
    exact (inductionHypothesis _).trans (c.store_visit choice.now id _)

theorem run_drill (c : Configurator T) (actions : List (Action T)) (id : String)
    (choices : List (Choice T)) :
    (c.run actions).drill id choices = c.run (actions ++ choices.map (Choice.action id)) :=
  List.foldl_append.symm

section Listing

variable {c : Configurator T} {now : T} {id : String} {before : Session T}
  (found : (c.registry.evict now).find? id = some before) {snapshot : Snapshot}
  (installed : c.store.installed = some snapshot)

include found installed in
theorem visit_listProducts :
    (c.visit now id .listProducts).result = .ok ⟨c.accessed now before, .products
      (Product.ofSubElement snapshot.products
        ((c.synced before.plan).selection.subElement?.map Category.id))⟩ :=
  (c.visit_done now id _ found (Plan.run_listProducts c.names _ installed)).1

include found installed in
theorem lists_iff {product : Product} :
    c.Lists now id product ↔ ∃ chosen, (c.synced before.plan).selection.subElement? = some chosen ∧
      product ∈ snapshot.products ∧ product.categoryId = some chosen.id := by
  have listing := visit_listProducts found installed
  rw [Product.ofSubElement_map] at listing
  constructor
  · rintro ⟨visited, products, result, answer, member⟩
    obtain rfl := Except.ok.inj (listing.symm.trans result)
    obtain rfl := Plan.Answer.products.inj answer
    split at member
    · cases member
    · rename_i chosen selected
      obtain ⟨listed, same⟩ := List.mem_filter.mp member
      exact ⟨chosen, selected, listed, beq_iff_eq.mp same⟩
  · rintro ⟨chosen, selected, listed, same⟩
    refine ⟨_, _, listing, rfl, ?_⟩
    rw [selected]
    exact List.mem_filter.mpr ⟨listed, beq_iff_eq.mpr same⟩

end Listing

/-- A chosen sub-element is one of the tree, whatever the run. -/
theorem subElement_at_depth_two {names : Pricing.MarketNames} {ttl : T}
    {actions : List (Action T)} {now : T} {id : String} {before : Session T} {snapshot : Snapshot}
    (found : (((start names ttl).run actions).registry.evict now).find? id = some before)
    (installed : ((start names ttl).run actions).store.installed = some snapshot)
    {chosen : Category}
    (selected : (((start names ttl).run actions).synced before.plan).selection.subElement? =
      some chosen) :
    ∃ node ∈ snapshot.tree.nodes, node.depth = 2 ∧ node.id = chosen.id := by
  obtain ⟨ticket, data, rfl⟩ := exists_build_of_installed installed
  have listed := Registry.mem_sessions_evict (Registry.of_find?_eq_some found).1
  have path := Plan.isPathOf_sync (nested_run names ttl actions before listed) ticket data
  rw [synced_eq_sync installed] at selected
  obtain ⟨_, _, _, _, room, roomListed, _, element, elementListed, _, c, member, same⟩ :=
    path.subElement chosen selected
  exact Tree.exists_node_at_depth_two_iff.mpr
    ⟨room, roomListed, element, elementListed, c, member, same⟩

theorem depth_two_of_lists {names : Pricing.MarketNames} {ttl : T} {actions : List (Action T)}
    {now : T} {id : String} {snapshot : Snapshot} {product : Product}
    (installed : ((start names ttl).run actions).store.installed = some snapshot)
    (lists : ((start names ttl).run actions).Lists now id product) :
    ∃ node ∈ snapshot.tree.nodes, node.depth = 2 ∧ product.categoryId = some node.id := by
  have ⟨visited, _, result, _⟩ := lists
  obtain ⟨before, _, found, _, _⟩ := of_visit_eq_ok result
  obtain ⟨chosen, selected, _, named⟩ := (lists_iff found installed).mp lists
  obtain ⟨node, listed, deep, same⟩ := subElement_at_depth_two found installed selected
  exact ⟨node, listed, deep, by rw [named, same]⟩

end Runs

section Clock

variable {T : Type} [AddCommGroup T] [LinearOrder T]

/-- The session is live at this time with this selection, and stays so from one access to the next
while the time does not change. -/
structure Keeps (c : Configurator T) (snapshot : Snapshot) (now : T) (id : String)
    (s : Selection) : Prop where
  installed : c.store.installed = some snapshot
  lasting : 0 ≤ c.registry.ttl
  live : ∃ before, (c.registry.evict now).find? id = some before ∧
    (c.synced before.plan).selection = s

section Descent

variable {c : Configurator T} {ticket : Int} {data : Data} {now : T} {id : String} {s : Selection}

theorem keeps_choose (kept : c.Keeps (.build ticket data) now id s) {d : Category}
    (survives : Survives data.categories d) (slot : Slot) {t : Selection}
    (ok : s.choose (.build ticket data) d slot = .ok t) :
    (c.visit now id (.choose d.id slot)).configurator.Keeps (.build ticket data) now id t := by
  obtain ⟨installed, lasting, before, found, rfl⟩ := kept
  have listed : (Snapshot.build ticket data).category? d.id = some d :=
    Snapshot.category?_build_eq_some_iff.mpr ⟨survives, rfl⟩
  have ran := Plan.run_choose_listed c.names (c.synced before.plan) installed listed slot
  rw [ok] at ran
  obtain ⟨here, rfl⟩ := Registry.of_find?_eq_some found
  rw [c.configurator_visit now before.id _ found ran]
  refine ⟨installed, lasting, _, Registry.find?_evict_put found ?_, ?_⟩
  · have idle : now - now ≤ c.registry.ttl := (sub_self now).trans_le lasting
    exact decide_eq_false idle.not_gt
  · -- The access let stand only what the catalog bears out, and so does the choice.
    have borneOut : (Plan.outdated (.build ticket data) t).isEmpty = true := by
      have earlier := Plan.outdated_isEmpty_sync (.build ticket data) before.plan
      rw [← synced_eq_sync installed] at earlier
      exact Plan.outdated_isEmpty_of_moves installed (Plan.moves_run ran) earlier
    let chosen : Plan := { c.synced before.plan with selection := t }
    have kept : c.synced chosen = chosen :=
      (synced_eq_sync installed chosen).trans (Plan.sync_eq_self borneOut)
    exact congrArg Plan.selection kept

/-- The way down to a sub-element of the tree can be walked. -/
theorem keeps_descent (kept : c.Keeps (.build ticket data) now id s) {room : RoomNode}
    (roomListed : room ∈ (Tree.build data.categories).rooms) {element : ElementNode}
    (elementListed : element ∈ room.elements) {d : Category}
    (member : d ∈ element.subElements) :
    (c.drill id [⟨now, room.category.id, .room⟩, ⟨now, element.category.id, .element⟩,
      ⟨now, d.id, .subElement⟩]).Keeps (.build ticket data) now id
        ⟨some room.category, some element.category, some d⟩ := by
  have isRoot : (Snapshot.build ticket data).tree.isRoot room.category.id = true :=
    Plan.isRoot_iff.mpr ⟨room, roomListed, rfl⟩
  obtain ⟨elementSurvives, elementNamed⟩ :=
    (Tree.mem_elements_iff roomListed).mp ⟨element, elementListed, rfl⟩
  obtain ⟨survives, named⟩ := (Tree.mem_subElements_iff roomListed elementListed).mp member
  have first := keeps_choose kept (Tree.survives_of_mem_rooms roomListed) .room (if_pos isRoot)
  have second := keeps_choose first elementSurvives .element
    (if_pos (beq_iff_eq.mpr elementNamed))
  exact keeps_choose second survives .subElement (if_pos (beq_iff_eq.mpr named))

end Descent

variable [IsOrderedAddMonoid T]

/-- At the latest time of a run, a live session keeps what an access leaves it. -/
theorem keeps_run {names : Pricing.MarketNames} {ttl : T} {actions : List (Action T)} {now : T}
    (latest : ∀ time ∈ actions.filterMap Action.time?, time ≤ now) {id : String}
    {before : Session T}
    (found : (((start names ttl).run actions).registry.evict now).find? id = some before)
    {snapshot : Snapshot}
    (installed : ((start names ttl).run actions).store.installed = some snapshot) :
    ((start names ttl).run actions).Keeps snapshot now id
      (((start names ttl).run actions).synced before.plan).selection := by
  refine ⟨installed, ?_, before, found, rfl⟩
  obtain ⟨listed, alive⟩ := List.mem_filter.mp (Registry.of_find?_eq_some found).1
  rcases lastSeen_run listed with none | seen
  · cases none
  · have idle : now - before.lastSeen ≤ ((start names ttl).run actions).registry.ttl := by
      simpa [Registry.isExpired] using alive
    exact (sub_nonneg.mpr (latest _ seen)).trans idle

/-- After any run, the products listed for a session are those of the chosen sub-element, which is
at depth two of the tree; none are while no sub-element is chosen. And if the clock does not go
back, some choices list a product exactly if its category is at depth two of the tree. -/
theorem drilldown_lists_products_at_depth_two (names : Pricing.MarketNames) (ttl : T)
    (actions : List (Action T)) :
    let c := (start names ttl).run actions
    ∀ now id before snapshot, (c.registry.evict now).find? id = some before →
      c.store.installed = some snapshot →
      (∃ session, (c.visit now id .get).result = .ok ⟨session, .plan⟩ ∧
        (c.visit now id .listProducts).result = .ok ⟨session, .products
          (match session.plan.selection.subElement? with
            | none => []
            | some chosen => snapshot.products.filter (·.categoryId == some chosen.id))⟩ ∧
        ∀ chosen, session.plan.selection.subElement? = some chosen →
          ∃ node ∈ snapshot.tree.nodes, node.depth = 2 ∧ node.id = chosen.id) ∧
      ((∀ time ∈ actions.filterMap Action.time?, time ≤ now) →
        ∀ product ∈ snapshot.products,
          (∃ choices later, (now :: choices.map Choice.now ++ [later]).Pairwise (· ≤ ·) ∧
            (c.drill id choices).Lists later id product) ↔
          ∃ node ∈ snapshot.tree.nodes, node.depth = 2 ∧ product.categoryId = some node.id) := by
  intro c now id before snapshot found installed
  constructor
  · refine ⟨c.accessed now before, (c.visit_done now id .get found rfl).1, ?_,
      fun chosen selected => subElement_at_depth_two found installed selected⟩
    rw [visit_listProducts found installed, Product.ofSubElement_map]
    rfl
  · intro latest product productListed
    constructor
    · rintro ⟨choices, later, _, lists⟩
      have same : (c.drill id choices).store = c.store := c.store_drill id choices
      rw [← same] at installed
      rw [run_drill] at lists installed
      exact depth_two_of_lists installed lists
    · rintro ⟨node, listed, deep, named⟩
      obtain ⟨ticket, data, rfl⟩ := exists_build_of_installed installed
      obtain ⟨room, roomListed, element, elementListed, d, member, same⟩ :=
        Tree.exists_node_at_depth_two_iff.mp ⟨node, listed, deep, rfl⟩
      have kept := keeps_descent (keeps_run latest found installed) roomListed elementListed member
      obtain ⟨last, lastFound, selected⟩ := kept.live
      refine ⟨_, now, by simp, (lists_iff lastFound kept.installed).mpr ⟨d, ?_, productListed, ?_⟩⟩
      · rw [selected]
      · rw [named, same]

/-- A product three levels down is listed after some choices, and one a level deeper never is. -/
theorem deeper_product_is_never_listed :
    let tile : Product := ⟨1, "Tile", 20, some 3, none, none, [], []⟩
    let grout : Product := ⟨2, "Grout", 5, some 4, none, none, [], []⟩
    let data : Data := { Data.empty with
      categories := [⟨1, "Bathroom", none, none⟩, ⟨2, "Floor", some 1, none⟩,
        ⟨3, "Tiles", some 2, none⟩, ⟨4, "Joints", some 3, none⟩]
      products := [tile, grout] }
    let c : Configurator Int := (start ⟨none, none⟩ 60).run [.install 1 data, .create 0]
    let Reachable (product : Product) : Prop := ∃ choices later,
      (1 :: choices.map Choice.now ++ [later]).Pairwise (· ≤ ·) ∧
        (c.drill "s1" choices).Lists later "s1" product
    Reachable tile ∧ ¬ Reachable grout := by
  intro tile grout data c Reachable
  have live : ((c.registry.evict 1).find? "s1").isSome = true := by decide +kernel
  obtain ⟨before, found⟩ := Option.isSome_iff_exists.mp live
  have installed : c.store.installed = some (.build 1 data) := rfl
  have reached := (drilldown_lists_products_at_depth_two ⟨none, none⟩ (60 : Int)
    [.install 1 data, .create 0] 1 "s1" before (.build 1 data) found installed).2 (by decide)
  constructor
  · apply (reached tile List.mem_cons_self).mpr
    decide +kernel
  · apply (not_congr (reached grout (List.mem_cons_of_mem _ List.mem_cons_self))).mpr
    decide +kernel

end Clock

end Configurator

end Fitout
