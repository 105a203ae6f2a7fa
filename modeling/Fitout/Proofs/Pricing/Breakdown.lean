import Fitout.Pricing.Breakdown
import Fitout.Proofs.Cart.Quantified

/-!
# What a cart is charged

Pricing puts one in place of a quantity that makes no sense, and of a coefficient that may not be
applied. The first never happens to what the operations leave in a cart: its quantities are charged
as they are, and none of them overflows.
-/

namespace Fitout

open Decimal

namespace Pricing

/-- The entry of a product line: what the line holds, at its price. -/
def ChargesProduct (line : ProductLine) (charged : LineTotal) : Prop :=
  ∃ quantity x, line.quantity = some quantity ∧ quantity.toFloat = .ok x ∧
    charged = ⟨.product, line.productId, line.price, quantity, line.price * x⟩

/-- The entry of a service line: what the line holds, at its price, scaled. -/
def ChargesService (coefficient : Float) (line : ServiceLine) (charged : LineTotal) : Prop :=
  ∃ quantity x, line.quantity = some quantity ∧ quantity.toFloat = .ok x ∧
    charged = ⟨.service, line.serviceId, line.price, quantity, line.price * x * coefficient⟩

/-- Every line is charged for what it holds, the products before the services. -/
def Breakdown.Charges (b : Breakdown) (cart : Cart) : Prop :=
  ∃ products services,
    List.Forall₂ ChargesProduct cart.products products ∧
    List.Forall₂ (ChargesService b.coefficient) cart.services services ∧
    b.lines = products ++ services ∧
    b.productsSubtotal = subtotal products ∧ b.servicesSubtotal = subtotal services

theorem effectiveQuantity_whole {n : Int} (least : 1 ≤ n) (most : n ≤ Double.largest) :
    effectiveQuantity (some (.whole n)) = .ok (.whole n) ∧
      (Number.whole n).toFloat = .ok (.ofInt n) := by
  have inRange : n.natAbs < Double.wholeLimit := by
    have := Double.largest_lt_wholeLimit
    omega
  have known : Number.floatOfInt n = .ok (.ofInt n) :=
    (Quantity.floatOfInt_eq n).trans (if_pos inRange)
  refine ⟨?_, known⟩
  rw [effectiveQuantity, known, Except.map, max_eq_right least]

theorem effectiveQuantity_real {x : Float} (finite : x.isFinite = true) (least : 1 ≤ x) :
    effectiveQuantity (some (.real x)) = .ok (.real x) := by
  have notLess : ¬ x < 1 := Double.not_lt_of_le least
  simp [effectiveQuantity, finite, notLess]

theorem exists_productTotal {line : ProductLine} (counted : line.IsCounted) :
    ∃ charged, productTotal line = .ok charged ∧ ChargesProduct line charged := by
  obtain ⟨n, held, least, most⟩ := counted
  obtain ⟨same, known⟩ := effectiveQuantity_whole least most
  refine ⟨_, ?_, .whole n, _, held, known, rfl⟩
  rw [productTotal, held, same]
  change ((Number.whole n).toFloat >>= _) = _
  rw [known]
  rfl

theorem exists_serviceTotal (coefficient : Float) {line : ServiceLine}
    (measured : line.IsMeasured) :
    ∃ charged, serviceTotal coefficient line = .ok charged ∧
      ChargesService coefficient line charged := by
  obtain ⟨x, held, finite, least⟩ := measured
  refine ⟨_, ?_, .real x, x, held, rfl, rfl⟩
  rw [serviceTotal, held, effectiveQuantity_real finite least]
  rfl

theorem breakdownWith_eq_ok {cart : Cart} {coefficient : Float} {products services : List LineTotal}
    (productsPriced : cart.products.mapM productTotal = .ok products)
    (servicesPriced : cart.services.mapM (serviceTotal coefficient) = .ok services) :
    breakdownWith cart coefficient =
      .ok ⟨products ++ services, subtotal products, subtotal services, coefficient⟩ := by
  rw [breakdownWith, productsPriced, servicesPriced]
  rfl

theorem exists_breakdownWith {cart : Cart} (quantified : cart.IsQuantified) (coefficient : Float) :
    ∃ b, breakdownWith cart coefficient = .ok b ∧ b.coefficient = coefficient ∧ b.Charges cart := by
  obtain ⟨products, totalled, charged⟩ :=
    exists_mapM_eq_ok fun line listed => exists_productTotal (quantified.products line listed)
  obtain ⟨services, totalledToo, chargedToo⟩ :=
    exists_mapM_eq_ok fun line listed =>
      exists_serviceTotal coefficient (quantified.services line listed)
  exact ⟨_, breakdownWith_eq_ok totalled totalledToo, rfl, products, services, charged, chargedToo,
    rfl, rfl, rfl⟩

/-- What is applied in place of a coefficient. -/
def applicable (coefficient : Float) : Float :=
  if isApplicable coefficient then coefficient else defaultCoefficient

theorem applied_real (x : Float) : applied (some (.real x)) = .ok (applicable x) :=
  rfl

theorem applicable_spec (coefficient : Float) :
    (applicable coefficient).isFinite = true ∧ 0 ≤ applicable coefficient := by
  unfold applicable
  split
  · next asked =>
    obtain ⟨finite, notLess⟩ := Bool.and_eq_true_iff.mp asked
    have notLess : ¬ coefficient < 0 := by simpa using notLess
    exact ⟨finite, Double.le_of_not_lt finite (by decide +kernel) notLess⟩
  · decide +kernel

theorem exists_breakdown {cart : Cart} (quantified : cart.IsQuantified) (coefficient : Float) :
    ∃ b, breakdown cart (some (.real coefficient)) = .ok b ∧
      b.coefficient = applicable coefficient ∧ b.Charges cart :=
  exists_breakdownWith quantified (applicable coefficient)

end Pricing

end Fitout
