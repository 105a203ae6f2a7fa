import Fitout.Proofs.Pricing.Breakdown
import Fitout.Proofs.Session.Path

/-!
# Totals of sessions

Every command leaves a cart with quantities that can be priced, whatever was entered. The total of a
session is therefore always given.
-/

namespace Fitout

namespace Plan

variable {store : Catalog.Store} {plan : Plan}

theorem isQuantified_of_stocks {cart after : Cart} (quantified : cart.IsQuantified)
    (stocks : Stocks store cart after) : after.IsQuantified := by
  induction stocks with
  | kept => exact quantified
  | cleared => exact .empty
  | product => exact quantified.addProduct _
  | service => exact quantified.addService _
  | preset => exact quantified.merge _
  | withoutProduct id => exact quantified.removeProduct id
  | withoutService id => exact quantified.removeService id
  | counted ok => exact quantified.setProductQuantity ok
  | measured ok => exact quantified.setServiceQuantity ok
  | labelled _ id unit inductionHypothesis => exact inductionHypothesis.setServiceUnit id unit

theorem exists_total (store : Catalog.Store) (names : Pricing.MarketNames)
    (quantified : plan.cart.IsQuantified) :
    ∃ b events, plan.run store names .total = .ok ⟨plan, .total b, events⟩ ∧
      b.coefficient = Pricing.applicable (plan.resolution store names).coefficient ∧
      b.Charges plan.cart := by
  obtain ⟨b, priced, applied, charges⟩ :=
    Pricing.exists_breakdown quantified (plan.resolution store names).coefficient
  refine ⟨b, ?events, ?given, applied, charges⟩
  case given =>
    rw [run, total, priced]
    rfl

end Plan

namespace Configurator

variable {T : Type} [Sub T] [LT T] [DecidableLT T]

theorem isQuantified_run (names : Pricing.MarketNames) (ttl : T) (actions : List (Action T)) :
    ∀ s ∈ ((start names ttl).run actions).registry.sessions, s.plan.cart.IsQuantified := by
  apply forall_plans_run (P := fun plan => plan.cart.IsQuantified)
  · exact .empty
  · intro snapshot plan quantified
    rwa [Plan.cart_sync]
  · intro store names plan command done quantified ok
    exact Plan.isQuantified_of_stocks quantified (Plan.stocks_run ok)
  · intro s listed
    cases listed

/-- Whatever was entered before, and whatever coefficients the catalog lists, a session has a total
for as long as it lives. It charges each line for the quantity that it holds, with a coefficient
that is finite and not below zero. -/
theorem total_charges_held_quantities (names : Pricing.MarketNames) (ttl : T)
    (actions : List (Action T)) :
    let c := (start names ttl).run actions
    (∀ s ∈ c.registry.sessions, s.plan.cart.IsQuantified) ∧
    ∀ now id before, (c.registry.evict now).find? id = some before →
      ∃ b, (c.visit now id .total).result = .ok ⟨c.accessed now before, .total b⟩ ∧
        b.Charges before.plan.cart ∧
        b.coefficient = Pricing.applicable
          ((c.accessed now before).plan.resolution c.store c.names).coefficient ∧
        b.coefficient.isFinite = true ∧ 0 ≤ b.coefficient := by
  intro c
  have quantified := isQuantified_run names ttl actions
  refine ⟨quantified, fun now id before found => ?_⟩
  have listed := Registry.mem_sessions_evict (Registry.of_find?_eq_some found).1
  have same : (c.synced before.plan).cart = before.plan.cart := c.cart_synced before.plan
  have held : (c.synced before.plan).cart.IsQuantified := same ▸ quantified before listed
  obtain ⟨b, events, ran, applied, charges⟩ := Plan.exists_total c.store c.names held
  obtain ⟨given, _⟩ := c.visit_done now id .total found ran
  obtain ⟨finite, least⟩ := Pricing.applicable_spec
    ((c.accessed now before).plan.resolution c.store c.names).coefficient
  exact ⟨b, given, same ▸ charges, applied, applied.symm ▸ finite, applied.symm ▸ least⟩

/-- Two and a half pieces are charged as two, and a coefficient below zero is not applied. -/
theorem coefficient_below_zero_is_not_applied :
    let actions : List (Action Int) :=
      [.install 1 ⟨[], [⟨7, "Tile", 20, none, none, none, [], []⟩], [], [], [⟨1, "Regional", -2⟩]⟩,
        .create 0, .visit 1 "s1" (.setMarket (some .primary)), .visit 1 "s1" (.addProduct 7),
        .visit 1 "s1" (.setProductQuantity 7 (.real 2.5))]
    let c := (start ⟨some "Regional", none⟩ 60).run actions
    ∃ session b charged, (c.visit 2 "s1" .total).result = .ok ⟨session, .total b⟩ ∧
      b.coefficient = 1 ∧ b.lines = [charged] ∧ charged.quantity = .whole 2 := by
  intro actions c
  let cart : Cart := ⟨[⟨7, 20, some (.whole 2), "Tile"⟩], []⟩
  let before : Session Int := ⟨"s1", ⟨.empty, cart, some .primary⟩, 1⟩
  have found : (c.registry.evict 2).find? "s1" = some before := rfl
  have listed : (c.accessed 2 before).plan.resolution c.store c.names = .listed (-2) := rfl
  have notApplicable : Pricing.applicable (-2) = 1 := if_neg (by decide +kernel)
  obtain ⟨_, totals⟩ := total_charges_held_quantities ⟨some "Regional", none⟩ 60 actions
  obtain ⟨b, given, ⟨products, services, charged, chargedToo, lines, _⟩, applied, _⟩ :=
    totals 2 "s1" before found
  rw [listed] at applied
  cases charged with
  | cons first rest =>
    cases rest
    cases chargedToo
    obtain ⟨quantity, _, held, _, same⟩ := first
    obtain rfl := Option.some.inj held
    exact ⟨_, b, _, given, applied.trans notApplicable, lines, congrArg (·.quantity) same⟩

end Configurator

end Fitout
