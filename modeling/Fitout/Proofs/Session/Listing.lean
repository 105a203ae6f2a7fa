import Fitout.Proofs.Session.Drilldown

/-!
# Listed products in the cart

Products are listed by sub-element and added by id. A listed product that was added is therefore in
the cart as the first entry of its id, and that need not be the entry that was listed.
-/

namespace Fitout

namespace Product

/-- No entry before this one has its id. -/
def IsFirst (products : List Product) (first : Product) : Prop :=
  ∃ before after, products = before ++ first :: after ∧ ∀ other ∈ before, other.id ≠ first.id

theorem isFirst_of_find?_eq_some {products : List Product} {id : Int} {first : Product}
    (found : products.find? (·.id == id) = some first) :
    IsFirst products first ∧ first.id = id := by
  obtain ⟨same, before, after, split, others⟩ := List.find?_eq_some_iff_append.mp found
  obtain rfl : first.id = id := beq_iff_eq.mp same
  exact ⟨⟨before, after, split, fun other member => by simpa using others other member⟩, rfl⟩

end Product

namespace Plan

variable {store : Catalog.Store} {snapshot : Catalog.Snapshot}

theorem product_eq {id : Int} {p : Product} (installed : store.installed = some snapshot)
    (found : snapshot.product? id = some p) : store.product id = .ok p := by
  simp only [Catalog.Store.product, current_eq installed, bind, Except.bind, found]
  rfl

/-- A single piece is appended for a product that the cart has no line of. -/
theorem run_addProduct (names : Pricing.MarketNames) {plan : Plan} {id : Int} {p : Product}
    (found : store.product id = .ok p) (free : plan.cart.hasProduct p.id = false) :
    plan.run store names (.addProduct id) = .ok {
      plan := { plan with cart.products := plan.cart.products ++ [.ofProduct p] }
      events := [.cartChanged .addProduct, .productAdded id true] } := by
  have added : plan.cart.addProduct p =
      ({ plan.cart with products := plan.cart.products ++ [.ofProduct p] }, true) := by
    rw [Cart.addProduct, free]
    rfl
  simp only [run, addProduct, found, Refusal.ofDomain, bind, Except.bind, added]
  rfl

end Plan

namespace Configurator

open Catalog

variable {T : Type} [Sub T] [LT T] [DecidableLT T]

/-- Adding a product at this time gives the session back with this line appended to its cart. -/
def Appends (c : Configurator T) (now : T) (id : String) (product : Int) (line : ProductLine) :
    Prop :=
  ∃ before session, (c.registry.evict now).find? id = some before ∧
    (c.visit now id (.addProduct product)).result = .ok ⟨session, .plan⟩ ∧
    (c.visit now id (.addProduct product)).configurator.registry.find? id = some session ∧
    session.plan.cart = { before.plan.cart with products := before.plan.cart.products ++ [line] }

section Appends

variable {c : Configurator T} {now : T} {id : String} {product : Int}

theorem Appends.unique {line other : ProductLine} (appends : c.Appends now id product line)
    (too : c.Appends now id product other) : line = other := by
  obtain ⟨before, session, found, given, _, cart⟩ := appends
  obtain ⟨before', session', found', given', _, cart'⟩ := too
  obtain rfl := Option.some.inj (found.symm.trans found')
  obtain rfl := congrArg Visit.session (Except.ok.inj (given.symm.trans given'))
  have same := congrArg Cart.products (cart.symm.trans cart')
  exact List.singleton_injective (List.append_cancel_left same)

theorem appends_of_product? {snapshot : Snapshot} {before : Session T} {p : Product}
    (installed : c.store.installed = some snapshot)
    (found : (c.registry.evict now).find? id = some before)
    (known : snapshot.product? product = some p)
    (free : before.plan.cart.hasProduct p.id = false) :
    c.Appends now id product (.ofProduct p) := by
  obtain ⟨here, rfl⟩ := Registry.of_find?_eq_some found
  have same : (c.synced before.plan).cart = before.plan.cart := c.cart_synced before.plan
  rw [← same] at free
  have ran := Plan.run_addProduct c.names (Plan.product_eq installed known) free
  obtain ⟨given, left⟩ := c.visit_done now before.id _ found ran
  refine ⟨before, _, found, given, ?_, ?_⟩
  · rw [left]
    exact Registry.find?_put (Registry.find?_put found)
  · change Cart.mk (_ ++ _) _ = _
    rw [same]

end Appends

/-- In every state, a product that is listed can be added for as long as the snapshot is installed:
while the session has no line of it, adding it succeeds. The line is that of the first entry with
its id, so it has the price and the name that were listed exactly if this entry has them, which is
so where no id occurs twice. -/
theorem listed_product_is_added_as_first (c : Configurator T) (more : List (Action T)) :
    ∀ snapshot now id product, c.store.installed = some snapshot →
      (c.run more).store.installed = some snapshot → c.Lists now id product →
      ∃ first, Product.IsFirst snapshot.products first ∧ first.id = product.id ∧
        ((snapshot.products.map Product.id).Nodup → first = product) ∧
        ∀ later before, ((c.run more).registry.evict later).find? id = some before →
          before.plan.cart.hasProduct product.id = false →
          (c.run more).Appends later id product.id (.ofProduct first) ∧
          ((c.run more).Appends later id product.id (.ofProduct product) ↔
            first.price = product.price ∧ first.name = product.name) := by
  intro snapshot now id product installed stays lists
  have ⟨_, _, given, _⟩ := lists
  obtain ⟨_, _, listingFound, _⟩ := of_visit_eq_ok given
  obtain ⟨_, _, listed, _⟩ := (lists_iff listingFound installed).mp lists
  have known : (snapshot.product? product.id).isSome = true :=
    List.find?_isSome.mpr ⟨product, listed, beq_self_eq_true _⟩
  obtain ⟨first, known⟩ := Option.isSome_iff_exists.mp known
  obtain ⟨isFirst, same⟩ := Product.isFirst_of_find?_eq_some known
  have firstListed : first ∈ snapshot.products := List.mem_of_find?_eq_some known
  refine ⟨first, isFirst, same,
    fun nodup => List.inj_on_of_nodup_map nodup firstListed listed same, ?_⟩
  intro later before found free
  have appends := appends_of_product? stays found known (same ▸ free)
  refine ⟨appends, fun own => ?_, fun ⟨price, name⟩ => ?_⟩
  · have line := appends.unique own
    exact ⟨congrArg ProductLine.price line, congrArg ProductLine.name line⟩
  · have line : ProductLine.ofProduct product = .ofProduct first := by
      simp only [ProductLine.ofProduct, same, price, name]
    rwa [line]

section Bathroom

/-- A room whose floor has two sub-elements, with these products. -/
def bathroom (products : List Product) : Data :=
  { Data.empty with
    categories := [⟨1, "Bathroom", none, none⟩, ⟨2, "Floor", some 1, none⟩,
      ⟨3, "Tiles", some 2, none⟩, ⟨4, "Skirting", some 2, none⟩]
    products }

/-- A session goes down to the tiles. -/
def amongTiles (products : List Product) : List (Action Int) :=
  [.install 1 (bathroom products), .create 0, .visit 0 "s1" (.selectRoom 1),
    .visit 0 "s1" (.selectElement 2), .visit 0 "s1" (.selectSubElement 3)]

theorem installed_amongTiles (products : List Product) :
    ((start ⟨none, none⟩ 60).run (amongTiles products)).store.installed =
      some (.build 1 (bathroom products)) := by
  simp only [amongTiles, run, List.foldl_cons, List.foldl_nil, step, store_visit]
  rfl

/-- Where no id occurs twice, a product is added as it was listed. -/
theorem slab_is_added_as_listed :
    let tile : Product := ⟨7, "Tile", 20, some 3, none, none, [], []⟩
    let slab : Product := ⟨8, "Slab", 35, some 3, none, none, [], []⟩
    let listing : Configurator Int := (start ⟨none, none⟩ 60).run (amongTiles [tile, slab])
    listing.Lists 1 "s1" slab ∧
      (listing.run [.visit 1 "s1" .listProducts]).Appends 2 "s1" 8 (.ofProduct slab) := by
  intro tile slab listing
  let snapshot : Snapshot := .build 1 (bathroom [tile, slab])
  have installed : listing.store.installed = some snapshot := installed_amongTiles [tile, slab]
  have stays : (listing.run [.visit 1 "s1" .listProducts]).store.installed = some snapshot := by
    rw [run, List.foldl_cons, List.foldl_nil, step, store_visit]
    exact installed
  have chosen : ((listing.registry.evict 1).find? "s1").map
      (fun s => (listing.synced s.plan).selection.subElement?.map Category.id) =
        some (some 3) := by decide +kernel
  have free : (((listing.run [.visit 1 "s1" .listProducts]).registry.evict 2).find? "s1").map
      (·.plan.cart.hasProduct 8) = some false := by decide +kernel
  obtain ⟨before, found, chosen⟩ := Option.map_eq_some_iff.mp chosen
  obtain ⟨category, selected, same⟩ := Option.map_eq_some_iff.mp chosen
  obtain ⟨after, foundLater, free⟩ := Option.map_eq_some_iff.mp free
  have lists : listing.Lists 1 "s1" slab := (lists_iff found installed).mpr
    ⟨category, selected, List.mem_cons_of_mem _ List.mem_cons_self, congrArg some same.symm⟩
  obtain ⟨first, _, _, only, adds⟩ := listing.listed_product_is_added_as_first
    [.visit 1 "s1" .listProducts] snapshot 1 "s1" slab installed stays lists
  have first_eq : first = slab := only (by decide)
  obtain ⟨appends, _⟩ := adds 2 after foundLater free
  exact ⟨lists, first_eq ▸ appends⟩

/-- A slab that is listed at 35 is added as the tile for 20 that has the same id. -/
theorem slab_is_added_as_tile :
    let tile : Product := ⟨7, "Tile", 20, some 4, none, none, [], []⟩
    let slab : Product := ⟨7, "Slab", 35, some 3, none, none, [], []⟩
    let c : Configurator Int := (start ⟨none, none⟩ 60).run (amongTiles [tile, slab])
    c.Lists 1 "s1" slab ∧ c.Appends 1 "s1" 7 (.ofProduct tile) ∧
      ¬ c.Appends 1 "s1" 7 (.ofProduct slab) := by
  intro tile slab c
  let snapshot : Snapshot := .build 1 (bathroom [tile, slab])
  have installed : c.store.installed = some snapshot := installed_amongTiles [tile, slab]
  have visited : ((c.registry.evict 1).find? "s1").map (fun s =>
      ((c.synced s.plan).selection.subElement?.map Category.id, s.plan.cart.hasProduct 7)) =
        some (some 3, false) := by decide +kernel
  obtain ⟨before, found, visited⟩ := Option.map_eq_some_iff.mp visited
  obtain ⟨chosen, free⟩ := Prod.mk.inj visited
  obtain ⟨category, selected, same⟩ := Option.map_eq_some_iff.mp chosen
  have lists : c.Lists 1 "s1" slab := (lists_iff found installed).mpr
    ⟨category, selected, List.mem_cons_of_mem _ List.mem_cons_self, congrArg some same.symm⟩
  have appends : c.Appends 1 "s1" 7 (.ofProduct tile) :=
    appends_of_product? installed found rfl free
  exact ⟨lists, appends, fun own =>
    absurd (congrArg ProductLine.name (appends.unique own)) (by decide)⟩

end Bathroom

end Configurator

end Fitout
