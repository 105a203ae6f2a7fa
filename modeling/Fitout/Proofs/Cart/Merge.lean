import Fitout.Cart.Merge
import Fitout.Journal.Entry
import Fitout.Proofs.Cart.History
import Fitout.Session.Plan

/-!
# Merging a preset is adding its products

A merge collects the lines that the products of a preset bring in, without the ids it has seen, and
appends them at once. That comes to the same as adding the products one after the other: the central
relation is that the lines collected so far are in the cart that the adds have reached. As long as
no product of the preset is taken out, merging it again brings in nothing.
-/

namespace Fitout.Cart

/-- Add products one after the other, with what each add returns. -/
def addAll (cart : Cart) : List Product → Cart × List Bool
  | [] => (cart, [])
  | p :: rest =>
    let (cart, added) := cart.addProduct p
    let (cart, others) := cart.addAll rest
    (cart, added :: others)

/-- Whether the operation takes out the line of a product. -/
def Operation.removes (id : Int) : Operation → Bool
  | removeProduct other => other == id
  | clear => true
  | addProduct _ | appendLines _ | setProductQuantity _ _ => false
  | addService _ | removeService _ | setServiceQuantity _ _ | setServiceUnit _ _ => false

section Adds

variable {cart : Cart} {p : Product}

theorem addProduct_of_has (has : cart.hasProduct p.id = true) :
    cart.addProduct p = (cart, false) := by
  simp [addProduct, has]

theorem addProduct_of_not_has (missing : cart.hasProduct p.id = false) :
    cart.addProduct p = (cart.withLine (.ofProduct p), true) := by
  simp [addProduct, missing, withLine]

@[simp] theorem hasProduct_withLine (cart : Cart) (line : ProductLine) (id : Int) :
    (cart.withLine line).hasProduct id = (cart.hasProduct id || line.productId == id) := by
  simp [hasProduct, withLine]

theorem hasProduct_addProduct (cart : Cart) (p : Product) (id : Int) :
    (cart.addProduct p).1.hasProduct id = (cart.hasProduct id || p.id == id) := by
  cases has : cart.hasProduct p.id with
  | true =>
    rw [addProduct_of_has has]
    by_cases same : p.id = id
    · simp [← same, has]
    · simp [same]
  | false =>
    rw [addProduct_of_not_has has]
    exact hasProduct_withLine cart _ id

theorem products_isPrefix_addProduct (cart : Cart) (p : Product) :
    cart.products <+: (cart.addProduct p).1.products := by
  cases has : cart.hasProduct p.id with
  | true =>
    rw [addProduct_of_has has]
  | false =>
    rw [addProduct_of_not_has has]
    exact List.prefix_append _ _

theorem services_addProduct (cart : Cart) (p : Product) :
    (cart.addProduct p).1.services = cart.services := by
  unfold addProduct
  split <;> rfl

theorem hasProduct_addAll (cart : Cart) (products : List Product) (id : Int) :
    (cart.addAll products).1.hasProduct id =
      (cart.hasProduct id || products.any (·.id == id)) := by
  induction products generalizing cart with
  | nil => simp [addAll]
  | cons p rest inductionHypothesis =>
    simp only [addAll, inductionHypothesis, hasProduct_addProduct, List.any_cons, Bool.or_assoc]

theorem products_isPrefix_addAll (cart : Cart) (products : List Product) :
    cart.products <+: (cart.addAll products).1.products := by
  induction products generalizing cart with
  | nil => exact List.prefix_rfl
  | cons p rest inductionHypothesis =>
    exact (products_isPrefix_addProduct cart p).trans (inductionHypothesis _)

theorem services_addAll (cart : Cart) (products : List Product) :
    (cart.addAll products).1.services = cart.services := by
  induction products generalizing cart with
  | nil => rfl
  | cons p rest inductionHypothesis =>
    exact (inductionHypothesis _).trans (services_addProduct cart p)

end Adds

section Merge

variable {cart current : Cart} {seen : List Int}

/-- The lines that are collected against the first cart are the ones that are missing from the cart
that the adds have reached, where that one has the ids seen so far. -/
theorem appendLines_newLines
    (reached : ∀ id, current.hasProduct id = (seen.contains id || cart.hasProduct id))
    (items : List (Option Product)) :
    let added := current.addAll (items.filterMap fun item => item)
    current.appendLines (cart.newLines seen items) = (added.1, added.2.count true) := by
  induction items generalizing current seen with
  | nil => rfl
  | cons item rest inductionHypothesis =>
    cases item with
    | none => exact inductionHypothesis reached
    | some p =>
      have products : (some p :: rest).filterMap (fun item => item) =
          p :: rest.filterMap fun item => item := rfl
      rw [products]
      cases has : current.hasProduct p.id with
      | true =>
        have skipped : cart.newLines seen (some p :: rest) = cart.newLines seen rest :=
          if_pos ((reached p.id).symm.trans has)
        simp only [addAll, addProduct_of_has has, skipped, inductionHypothesis reached]
        simp
      | false =>
        have collected : cart.newLines seen (some p :: rest) =
            .ofProduct p :: cart.newLines (p.id :: seen) rest :=
          if_neg (Bool.eq_false_iff.mp ((reached p.id).symm.trans has))
        have later : ∀ id, (current.withLine (.ofProduct p)).hasProduct id =
            ((p.id :: seen).contains id || cart.hasProduct id) := by
          intro id
          rw [hasProduct_withLine, reached, List.contains_cons, Bool.or_comm, Bool.or_assoc,
            BEq.comm (a := id)]
          rfl
        rw [collected, current.appendLines_cons_of_not_has has]
        simp only [addAll, addProduct_of_not_has has, inductionHypothesis later]
        simp

theorem appendLines_newLines_nil (cart : Cart) (preset : Preset) :
    cart.appendLines (cart.newLines [] preset.items) =
      ((cart.addAll preset.products).1, (cart.addAll preset.products).2.count true) :=
  appendLines_newLines (fun _ => rfl) preset.items

theorem merge_eq (cart : Cart) (preset : Preset) :
    cart.merge preset = ⟨(cart.addAll preset.products).1,
      (cart.addAll preset.products).2.count true, preset.items.countP Option.isNone⟩ := by
  simp only [merge, appendLines_newLines_nil]

/-- Adds of products that all have lines do nothing. -/
theorem addAll_of_has {products : List Product}
    (has : ∀ p ∈ products, cart.hasProduct p.id = true) :
    cart.addAll products = (cart, products.map fun _ => false) := by
  induction products with
  | nil => rfl
  | cons p rest inductionHypothesis =>
    obtain ⟨first, others⟩ := List.forall_mem_cons.mp has
    simp only [addAll, addProduct_of_has first, inductionHypothesis others, List.map_cons]

end Merge

section Later

variable {cart : Cart} {id : Int}

theorem drops_of_not_removes {operation : Operation} (spared : operation.removes id = false)
    {edit : Edit ProductLine Int} (member : edit ∈ operation.productEdits) :
    edit.drops id = false := by
  cases operation with
  | addProduct p =>
    obtain rfl := List.mem_singleton.mp member
    rfl
  | appendLines lines =>
    obtain ⟨line, _, rfl⟩ := List.mem_map.mp member
    rfl
  | removeProduct other =>
    obtain rfl := List.mem_singleton.mp member
    exact spared
  | setProductQuantity other entry =>
    simp only [Operation.productEdits] at member
    split at member
    · obtain rfl := List.mem_singleton.mp member
      rfl
    · cases member
  | clear => cases spared
  | addService s | removeService other | setServiceQuantity other entry
  | setServiceUnit other unit => cases member

/-- A line stays as long as the edits do not drop it. -/
theorem any_foldl_apply {lines : List ProductLine} {edits : List (Edit ProductLine Int)}
    (there : lines.any (·.productId == id) = true)
    (spared : ∀ edit ∈ edits, edit.drops id = false) :
    (edits.foldl productLines.apply lines).any (·.productId == id) = true := by
  induction edits generalizing lines with
  | nil => exact there
  | cons edit rest inductionHypothesis =>
    obtain ⟨first, others⟩ := List.forall_mem_cons.mp spared
    exact inductionHypothesis (productLines.any_apply_of_spared lines there first) others

theorem hasProduct_step {operation : Operation} (there : cart.hasProduct id = true)
    (spared : operation.removes id = false) : (cart.step operation).hasProduct id = true := by
  rw [hasProduct, products_step]
  exact any_foldl_apply there fun _ member => drops_of_not_removes spared member

theorem hasProduct_foldl_step {operations : List Operation} (there : cart.hasProduct id = true)
    (spared : ∀ operation ∈ operations, operation.removes id = false) :
    (operations.foldl step cart).hasProduct id = true := by
  induction operations generalizing cart with
  | nil => exact there
  | cons operation rest inductionHypothesis =>
    obtain ⟨first, others⟩ := List.forall_mem_cons.mp spared
    exact inductionHypothesis (hasProduct_step there first) others

end Later

/-- A merge leaves the cart as adding the products of the preset one after the other does, and what
it logs as added are the adds that return true. Lines that exist and services are untouched. Merged
again, a preset changes nothing unless one of its products was taken out in between. -/
theorem merge_adds_products (cart : Cart) (preset : Preset) :
    let merged := cart.merge preset
    let adds := cart.addAll preset.products
    merged.cart = adds.1 ∧ merged.added = adds.2.count true ∧
    cart.products <+: merged.cart.products ∧ merged.cart.services = cart.services ∧
    (∀ (plan : Plan) (store : Catalog.Store) (id : Int), plan.cart = cart →
      store.preset id = .ok preset → ∃ done, plan.applyPreset store id = .ok done ∧
        done.plan = { plan with cart := adds.1 } ∧
        Entry.ofJournal done.events = [⟨.info, .presets, "Preset applied",
          [("preset_id", .whole preset.id), ("items", .ofNat preset.items.length),
            ("added", .ofNat (adds.2.count true)),
            ("skipped_missing", .ofNat (preset.items.countP Option.isNone))]⟩]) ∧
    ∀ operations : List Operation,
      (∀ operation ∈ operations, ∀ p ∈ preset.products, operation.removes p.id = false) →
        let later := operations.foldl step merged.cart
        (later.merge preset).cart = later ∧ (later.merge preset).added = 0 := by
  intro merged adds
  have merged_eq : merged = ⟨adds.1, adds.2.count true, preset.items.countP Option.isNone⟩ :=
    merge_eq cart preset
  refine ⟨by rw [merged_eq], by rw [merged_eq], ?_, ?_, ?_, ?_⟩
  · rw [merged_eq]
    exact products_isPrefix_addAll cart preset.products
  · rw [merged_eq]
    exact services_addAll cart preset.products
  · intro plan store id same found
    have applied : plan.applyPreset store id = .ok {
        plan := { plan with cart := merged.cart }
        events := [.presetMerged preset.id preset.items.length merged.added merged.broken,
          .presetApplied id] } := by
      rw [Plan.applyPreset, found, same]
      rfl
    rw [applied, merged_eq]
    exact ⟨_, rfl, rfl, rfl⟩
  · intro operations spared later
    have has : ∀ p ∈ preset.products, later.hasProduct p.id = true := by
      intro p listed
      apply hasProduct_foldl_step
      · rw [merged_eq, hasProduct_addAll, Bool.or_eq_true]
        exact .inr (List.any_eq_true.mpr ⟨p, listed, beq_self_eq_true p.id⟩)
      · intro operation member
        exact spared operation member p listed
    rw [merge_eq, addAll_of_has has]
    exact ⟨rfl, List.count_eq_zero.mpr (by simp)⟩

/-- The tile has a line, one item is broken, and the slab comes twice at different prices. -/
theorem loft_is_merged_once :
    let tile : Product := ⟨5, "Tile", 90, some 3, none, none, [], []⟩
    let slab (price : Float) : Product := ⟨7, "Slab", price, some 3, none, none, [], []⟩
    let loft : Preset :=
      ⟨1, "Loft", [some tile, none, some (slab 70), some (slab 75)], 0, none, none⟩
    let cart : Cart := ⟨[⟨5, 100, some (.whole 3), "Tile"⟩], []⟩
    let full : Cart :=
      ⟨[⟨5, 100, some (.whole 3), "Tile"⟩, ⟨7, 70, some (.whole 1), "Slab"⟩], []⟩
    let store : Catalog.Store := ⟨1, some (.build 1 ⟨[], [], [], [loft], []⟩)⟩
    let operations : List Operation :=
      [.removeProduct 9, .setProductQuantity 5 (.whole 2), .removeService 7]
    let later := operations.foldl step full
    store.preset 1 = .ok loft ∧
      (∃ done, Plan.applyPreset store ⟨.empty, cart, none⟩ 1 = .ok done ∧
        done.plan = ⟨.empty, full, none⟩) ∧
      (cart.merge loft).cart = full ∧ (cart.merge loft).added = 1 ∧
      (∀ operation ∈ operations, ∀ p ∈ loft.products, operation.removes p.id = false) ∧
      (later.merge loft).cart = later ∧ (later.merge loft).added = 0 := by
  intro tile slab loft cart full store operations later
  obtain ⟨merged, added, _, _, applied, again⟩ := merge_adds_products cart loft
  have found : store.preset 1 = .ok loft := rfl
  have full_eq : (cart.addAll loft.products).1 = full := rfl
  obtain ⟨done, given, plan, _⟩ := applied ⟨.empty, cart, none⟩ store 1 rfl found
  have spared : ∀ operation ∈ operations, ∀ p ∈ loft.products,
      operation.removes p.id = false := by
    simp [operations, loft, tile, slab, Preset.products, Operation.removes]
  have unchanged := again operations spared
  rw [merged, full_eq] at unchanged
  exact ⟨found, ⟨done, given, full_eq ▸ plan⟩, merged.trans full_eq, added, spared, unchanged⟩

end Fitout.Cart
