import Fitout.Proofs.Pricing.Breakdown

/-!
# The lines of a breakdown

Any cart that can be priced, whatever its quantities, with any coefficient. Each line has its entry,
the subtotals add up the entries of their kind, and the coefficient has no part in the products.
-/

namespace Fitout

open Decimal

/-- A number from one upward that is finite, as whole ones are. -/
def Number.IsFromOne : Number → Prop
  | whole n => 1 ≤ n
  | real x => x.isFinite = true ∧ 1 ≤ x

namespace Pricing

/-- What is charged for a quantity that a line holds. -/
inductive ChargedAs (held : Option Number) : Number → Prop where
  | held {n : Number} (same : held = some n) (fromOne : n.IsFromOne) : ChargedAs held n
  | one (senseless : ∀ n, held = some n → ¬ n.IsFromOne) : ChargedAs held (.whole 1)

/-- The entry of a product line, with a quantity that makes sense. -/
def PricesProduct (line : ProductLine) (entry : LineTotal) : Prop :=
  ∃ quantity x, ChargedAs line.quantity quantity ∧ quantity.toFloat = .ok x ∧
    entry = ⟨.product, line.productId, line.price, quantity, line.price * x⟩

/-- The entry of a service line, with a quantity that makes sense and scaled. -/
def PricesService (coefficient : Float) (line : ServiceLine) (entry : LineTotal) : Prop :=
  ∃ quantity x, ChargedAs line.quantity quantity ∧ quantity.toFloat = .ok x ∧
    entry = ⟨.service, line.serviceId, line.price, quantity, line.price * x * coefficient⟩

theorem ChargedAs.isFromOne {held : Option Number} {quantity : Number}
    (charged : ChargedAs held quantity) : quantity.IsFromOne := by
  cases charged with
  | held _ fromOne => exact fromOne
  | one => exact Int.le_refl 1

theorem chargedAs_of_effectiveQuantity {held : Option Number} {quantity : Number}
    (ok : effectiveQuantity held = .ok quantity) : ChargedAs held quantity := by
  cases held with
  | none =>
    obtain rfl := Except.ok.inj ok
    exact .one (by simp)
  | some n =>
    cases n with
    | whole n =>
      obtain ⟨_, _, rfl⟩ := of_map_eq_ok ok
      by_cases least : 1 ≤ n
      · rw [max_eq_right least]
        exact .held rfl least
      · rw [max_eq_left (Int.le_of_not_le least)]
        apply ChargedAs.one
        rintro _ ⟨⟩
        exact least
    | real x =>
      obtain rfl := Except.ok.inj ok
      split
      · next senseless =>
        apply ChargedAs.one
        rintro _ ⟨⟩ ⟨finite, least⟩
        have notLess := Double.not_lt_of_le least
        simp [finite, notLess] at senseless
      · next sense =>
        have finite : x.isFinite = true := by
          by_contra infinite
          simp [infinite] at sense
        have notLess : ¬ x < 1 := by
          intro less
          simp [less] at sense
        exact .held rfl ⟨finite, Double.le_of_not_lt finite (by decide +kernel) notLess⟩

theorem pricesProduct_of_productTotal {line : ProductLine} {entry : LineTotal}
    (ok : productTotal line = .ok entry) : PricesProduct line entry := by
  obtain ⟨quantity, effective, later⟩ := of_bind_eq_ok ok
  obtain ⟨x, known, same⟩ := of_bind_eq_ok later
  exact ⟨quantity, x, chargedAs_of_effectiveQuantity effective, known, (Except.ok.inj same).symm⟩

theorem pricesService_of_serviceTotal {coefficient : Float} {line : ServiceLine}
    {entry : LineTotal} (ok : serviceTotal coefficient line = .ok entry) :
    PricesService coefficient line entry := by
  obtain ⟨quantity, effective, later⟩ := of_bind_eq_ok ok
  obtain ⟨x, known, same⟩ := of_bind_eq_ok later
  exact ⟨quantity, x, chargedAs_of_effectiveQuantity effective, known, (Except.ok.inj same).symm⟩

/-- Whether a service line can be priced does not depend on the coefficient. -/
theorem exists_serviceTotal_of_eq_ok {coefficient : Float} {line : ServiceLine} {entry : LineTotal}
    (ok : serviceTotal coefficient line = .ok entry) (other : Float) :
    ∃ entry, serviceTotal other line = .ok entry := by
  obtain ⟨quantity, effective, later⟩ := of_bind_eq_ok ok
  obtain ⟨x, known, _⟩ := of_bind_eq_ok later
  refine ⟨⟨.service, line.serviceId, line.price, quantity, line.price * x * other⟩, ?_⟩
  rw [serviceTotal, effective]
  change (quantity.toFloat >>= _) = _
  rw [known]
  rfl

theorem of_breakdown_eq_ok {cart : Cart} {coefficient : Option Number} {b : Breakdown}
    (priced : breakdown cart coefficient = .ok b) :
    applied coefficient = .ok b.coefficient ∧ ∃ products services,
      cart.products.mapM productTotal = .ok products ∧
      cart.services.mapM (serviceTotal b.coefficient) = .ok services ∧
      b = ⟨products ++ services, subtotal products, subtotal services, b.coefficient⟩ := by
  obtain ⟨c, taken, later⟩ := of_bind_eq_ok priced
  obtain ⟨products, productsPriced, later⟩ := of_bind_eq_ok later
  obtain ⟨services, servicesPriced, same⟩ := of_bind_eq_ok later
  obtain rfl := Except.ok.inj same
  exact ⟨taken, products, services, productsPriced, servicesPriced, rfl⟩

theorem breakdown_eq_ok {cart : Cart} {coefficient : Option Number} {c : Float}
    {products services : List LineTotal} (taken : applied coefficient = .ok c)
    (productsPriced : cart.products.mapM productTotal = .ok products)
    (servicesPriced : cart.services.mapM (serviceTotal c) = .ok services) :
    breakdown cart coefficient =
      .ok ⟨products ++ services, subtotal products, subtotal services, c⟩ := by
  rw [breakdown, taken]
  exact breakdownWith_eq_ok productsPriced servicesPriced

/-- A double always has a coefficient to apply, and none at all has one too. -/
theorem exists_applied (coefficient : Option Float) :
    ∃ c, applied (coefficient.map .real) = .ok c := by
  cases coefficient with
  | none => exact ⟨_, rfl⟩
  | some x => exact ⟨_, applied_real x⟩

/-- In place of a coefficient that makes no sense one is applied. -/
theorem applied_of_senseless {x : Float} (senseless : x.isFinite = false ∨ x < 0) :
    applied (some (.real x)) = .ok 1 := by
  have refused : isApplicable x = false := by
    rcases senseless with infinite | negative
    · simp [isApplicable, infinite]
    · simp [isApplicable, negative]
  rw [applied_real, applicable, if_neg (by simp [refused])]
  rfl

theorem applied_one : applied (some (.real 1)) = .ok 1 := by
  rw [applied_real, applicable, if_pos (by decide +kernel)]

/-- The entries of one kind, in order. -/
def Breakdown.ofKind (b : Breakdown) (kind : LineKind) : List LineTotal :=
  b.lines.filter (·.kind == kind)

section Entries

variable {cart : Cart} {coefficient : Float} {products services : List LineTotal}

theorem pricesProduct_of_mapM (priced : cart.products.mapM productTotal = .ok products) :
    List.Forall₂ PricesProduct cart.products products :=
  (forall₂_of_mapM_eq_ok priced).imp fun _ _ => pricesProduct_of_productTotal

theorem pricesService_of_mapM
    (priced : cart.services.mapM (serviceTotal coefficient) = .ok services) :
    List.Forall₂ (PricesService coefficient) cart.services services :=
  (forall₂_of_mapM_eq_ok priced).imp fun _ _ => pricesService_of_serviceTotal

theorem product_entries (priced : cart.products.mapM productTotal = .ok products) :
    ∀ entry ∈ products, entry.kind = .product ∧ entry.quantity.IsFromOne := by
  refine forall_mem_of_forall₂ ?_ (pricesProduct_of_mapM priced)
  rintro _ _ ⟨_, _, charged, _, rfl⟩
  exact ⟨rfl, charged.isFromOne⟩

theorem service_entries (priced : cart.services.mapM (serviceTotal coefficient) = .ok services) :
    ∀ entry ∈ services, entry.kind = .service ∧ entry.quantity.IsFromOne := by
  refine forall_mem_of_forall₂ ?_ (pricesService_of_mapM priced)
  rintro _ _ ⟨_, _, charged, _, rfl⟩
  exact ⟨rfl, charged.isFromOne⟩

theorem exists_services_of_mapM
    (priced : cart.services.mapM (serviceTotal coefficient) = .ok services) (other : Float) :
    ∃ services, cart.services.mapM (serviceTotal other) = .ok services := by
  have each := (forall₂_of_mapM_eq_ok priced).imp fun _ _ ok =>
    And.intro (exists_serviceTotal_of_eq_ok ok other) ok
  obtain ⟨priceable, _⟩ := (List.forall₂_and_left _ _).mp each
  obtain ⟨services, priced, _⟩ := exists_mapM_eq_ok fun line listed =>
    (priceable line listed).imp fun _ ok => And.intro ok trivial
  exact ⟨services, priced⟩

theorem filter_kind {entries : List LineTotal} {kind : LineKind}
    (same : ∀ entry ∈ entries, entry.kind = kind) (other : LineKind) :
    entries.filter (·.kind == other) = if kind = other then entries else [] := by
  split
  · next wanted =>
    apply List.filter_eq_self.mpr
    intro entry member
    exact beq_iff_eq.mpr ((same entry member).trans wanted)
  · next unwanted =>
    apply List.filter_eq_nil_iff.mpr
    intro entry member found
    exact unwanted ((same entry member).symm.trans (beq_iff_eq.mp found))

theorem ofKind_eq (productsPriced : cart.products.mapM productTotal = .ok products)
    (servicesPriced : cart.services.mapM (serviceTotal coefficient) = .ok services)
    {b : Breakdown} (lines : b.lines = products ++ services) :
    b.ofKind .product = products ∧ b.ofKind .service = services := by
  have ofProducts := filter_kind fun entry member => (product_entries productsPriced entry member).1
  have ofServices := filter_kind fun entry member => (service_entries servicesPriced entry member).1
  simp [Breakdown.ofKind, lines, ofProducts, ofServices]

end Entries

/-- Every line has its entry, products before services, and the subtotals add up what is of their
kind. Another coefficient leaves the products alone, and everything if it comes to the same. -/
theorem breakdown_prices_each_line {cart : Cart} {coefficient : Option Float} {b : Breakdown}
    (priced : breakdown cart (coefficient.map .real) = .ok b) :
    (∃ products services, b.lines = products ++ services ∧
      List.Forall₂ PricesProduct cart.products products ∧
      List.Forall₂ (PricesService b.coefficient) cart.services services) ∧
    (∀ entry ∈ b.lines, entry.quantity.IsFromOne) ∧
    b.productsSubtotal = (b.ofKind .product).foldl (· + ·.total) 0 ∧
    b.servicesSubtotal = (b.ofKind .service).foldl (· + ·.total) 0 ∧
    b.total = b.productsSubtotal + b.servicesSubtotal ∧
    (∀ other : Option Float, ∃ b', breakdown cart (other.map .real) = .ok b' ∧
      b'.ofKind .product = b.ofKind .product ∧ b'.productsSubtotal = b.productsSubtotal ∧
      (applied (other.map .real) = applied (coefficient.map .real) → b' = b)) ∧
    (∀ x : Float, x.isFinite = false ∨ x < 0 → applied (some (.real x)) = .ok 1) ∧
    applied none = .ok 1 ∧ applied (some (.real 1)) = .ok 1 := by
  obtain ⟨taken, products, services, productsPriced, servicesPriced, same⟩ :=
    of_breakdown_eq_ok priced
  have lines : b.lines = products ++ services := by rw [same]
  obtain ⟨onlyProducts, onlyServices⟩ := ofKind_eq productsPriced servicesPriced lines
  refine ⟨⟨products, services, lines, pricesProduct_of_mapM productsPriced,
    pricesService_of_mapM servicesPriced⟩, ?_, ?_, ?_, rfl, ?_, fun _ => applied_of_senseless, rfl,
    applied_one⟩
  · rw [lines]
    intro entry member
    rcases List.mem_append.mp member with ofProduct | ofService
    · exact (product_entries productsPriced entry ofProduct).2
    · exact (service_entries servicesPriced entry ofService).2
  · rw [onlyProducts, same]
    rfl
  · rw [onlyServices, same]
    rfl
  · intro other
    obtain ⟨c, takenToo⟩ := exists_applied other
    obtain ⟨others, othersPriced⟩ := exists_services_of_mapM servicesPriced c
    have pricedToo := breakdown_eq_ok takenToo productsPriced othersPriced
    refine ⟨_, pricedToo, ?_, ?_, ?_⟩
    · rw [onlyProducts]
      exact (ofKind_eq productsPriced othersPriced rfl).1
    · rw [same]
    · intro equal
      have samePrice : breakdown cart (other.map .real) =
          breakdown cart (coefficient.map .real) := by
        rw [breakdown, breakdown, equal]
      exact Except.ok.inj (pricedToo.symm.trans (samePrice.trans priced))

/-- A quantity that is not there and one that is no number are charged as one each, and a
coefficient below zero is none. -/
theorem missing_quantity_is_charged_as_one :
    let cart : Cart := ⟨[⟨7, 20, none, "Tile"⟩], [⟨3, 10, some (.real (0 / 0)), "m", "Laying"⟩]⟩
    ∃ b product service, breakdown cart (some (.real (-2))) = .ok b ∧
      b.lines = [product, service] ∧ product.quantity = .whole 1 ∧ service.quantity = .whole 1 ∧
      breakdown cart none = .ok b := by
  intro cart
  have priceable : (breakdown cart (some (.real (-2)))).isOk = true := by decide +kernel
  obtain ⟨b, priced⟩ := exists_eq_ok_of_isOk priceable
  have pricedAsDouble : breakdown cart ((some (-2 : Float)).map .real) = .ok b := priced
  obtain ⟨⟨products, services, lines, productEntries, serviceEntries⟩, _, _, _, _, others,
    senseless, unasked, _⟩ := breakdown_prices_each_line pricedAsDouble
  obtain ⟨b', pricedToo, _, _, equal⟩ := others none
  have negative : applied (some (.real (-2))) = .ok 1 := senseless (-2) (.inr (by decide +kernel))
  obtain rfl := equal (unasked.trans negative.symm)
  cases productEntries with
  | @cons _ product _ _ productEntry none =>
    cases none
    cases serviceEntries with
    | @cons _ service _ _ serviceEntry none =>
      cases none
      obtain ⟨_, _, one, _, rfl⟩ := productEntry
      obtain ⟨_, _, oneToo, _, rfl⟩ := serviceEntry
      refine ⟨b', _, _, priced, lines, ?_, ?_, pricedToo⟩
      · cases one with
        | held same => cases same
        | one => rfl
      · cases oneToo with
        | one => rfl
        | held same fromOne =>
          obtain rfl := Option.some.inj same
          exact absurd fromOne.1 (by decide +kernel)

end Pricing

end Fitout
