import Fitout.Cart.Merge
import Fitout.Proofs.Cart.Coercion

/-!
# Quantities that a cart holds

The operations count products in whole numbers from one up to the largest double, and measure
services in finite doubles from one up. What is entered can be refused, but nothing else ever gets
into a line.
-/

namespace Fitout

open Decimal

namespace Quantity

variable {entry : Json}

theorem wholeCount_le (x : Float) : wholeCount x ≤ Double.largest := by
  have one : (1 : Int) ≤ Double.largest := by decide +kernel
  unfold wholeCount
  split
  · next b exactly =>
    have bounded : (b.wholePart : Int) ≤ Double.largest :=
      Int.ofNat_le.mpr (Double.wholePart_le exactly)
    apply max_le one
    unfold Binary.truncate
    split <;> omega
  · exact one

/-- What is counted is a whole number within the doubles. -/
theorem count_spec {n : Int} (counted : count entry = .ok n) : 1 ≤ n ∧ n ≤ Double.largest := by
  obtain ⟨amount, _, rfl⟩ := of_map_eq_ok counted
  cases amount with
  | none => exact ⟨le_rfl, by decide +kernel⟩
  | some x => exact ⟨one_le_wholeCount x, wholeCount_le x⟩

/-- What is measured is a finite double. -/
theorem measure_spec {x : Float} (measured : measure entry = .ok x) :
    x.isFinite = true ∧ 1 ≤ x := by
  obtain ⟨amount, known, rfl⟩ := of_map_eq_ok measured
  cases beyond : isBeyondDouble entry with
  | true =>
    rw [amount?_of_beyond beyond] at known
    cases known
  | false =>
    obtain ⟨same, sameKnown, finite⟩ := amount?_of_not_beyond beyond
    obtain rfl := Except.ok.inj (known.symm.trans sameKnown)
    cases amount with
    | none => decide +kernel
    | some x => exact atLeastOne_spec (finite x rfl)

end Quantity

/-- The line holds a whole number from one up that is within the doubles. -/
def ProductLine.IsCounted (line : ProductLine) : Prop :=
  ∃ n : Int, line.quantity = some (.whole n) ∧ 1 ≤ n ∧ n ≤ Double.largest

/-- The line holds a finite double from one up. -/
def ServiceLine.IsMeasured (line : ServiceLine) : Prop :=
  ∃ x : Float, line.quantity = some (.real x) ∧ x.isFinite = true ∧ 1 ≤ x

theorem ProductLine.isCounted_ofProduct (p : Product) : (ofProduct p).IsCounted :=
  ⟨1, rfl, le_rfl, by decide +kernel⟩

theorem ServiceLine.isMeasured_ofService (s : Service) : (ofService s).IsMeasured :=
  ⟨1, rfl, by decide +kernel⟩

namespace Cart

/-- An update of some lines keeps what it keeps of each line. -/
theorem forall_mem_update {α : Type} {P : α → Prop} {lines : List α} {update : α → α}
    {chosen : α → Bool} (kept : ∀ line, P line → P (update line)) (all : ∀ line ∈ lines, P line) :
    ∀ line ∈ lines.map (fun line => if chosen line then update line else line), P line := by
  refine List.forall_mem_map.mpr fun line listed => ?_
  split
  · exact kept line (all line listed)
  · exact all line listed

/-- Every line holds a quantity of its kind. -/
structure IsQuantified (cart : Cart) : Prop where
  products : ∀ line ∈ cart.products, line.IsCounted
  services : ∀ line ∈ cart.services, line.IsMeasured

namespace IsQuantified

theorem empty : Cart.empty.IsQuantified :=
  ⟨fun _ none => absurd none List.not_mem_nil, fun _ none => absurd none List.not_mem_nil⟩

variable {cart : Cart} (quantified : cart.IsQuantified)

include quantified

theorem appendProduct {line : ProductLine} (counted : line.IsCounted) :
    IsQuantified { cart with products := cart.products ++ [line] } where
  products := List.forall_mem_append.mpr
    ⟨quantified.products, List.forall_mem_singleton.mpr counted⟩
  services := quantified.services

theorem appendService {line : ServiceLine} (measured : line.IsMeasured) :
    IsQuantified { cart with services := cart.services ++ [line] } where
  products := quantified.products
  services := List.forall_mem_append.mpr
    ⟨quantified.services, List.forall_mem_singleton.mpr measured⟩

theorem appendLines {lines : List ProductLine} (counted : ∀ line ∈ lines, line.IsCounted) :
    (cart.appendLines lines).1.IsQuantified := by
  induction lines generalizing cart with
  | nil => exact quantified
  | cons line rest inductionHypothesis =>
    have counted := List.forall_mem_cons.mp counted
    unfold Cart.appendLines
    split
    · exact inductionHypothesis quantified counted.2
    · exact inductionHypothesis (quantified.appendProduct counted.1) counted.2

theorem addProduct (p : Product) : (cart.addProduct p).1.IsQuantified := by
  unfold Cart.addProduct
  split
  · exact quantified
  · exact quantified.appendProduct (ProductLine.isCounted_ofProduct p)

theorem addService (s : Service) : (cart.addService s).1.IsQuantified := by
  unfold Cart.addService
  split
  · exact quantified
  · exact quantified.appendService (ServiceLine.isMeasured_ofService s)

theorem removeProduct (id : Int) : (cart.removeProduct id).1.IsQuantified where
  products line listed := quantified.products line (List.mem_filter.mp listed).1
  services := quantified.services

theorem removeService (id : Int) : (cart.removeService id).1.IsQuantified where
  products := quantified.products
  services line listed := quantified.services line (List.mem_filter.mp listed).1

theorem updateProduct (id : Int) {update : ProductLine → ProductLine}
    (counted : ∀ line : ProductLine, line.IsCounted → (update line).IsCounted) :
    (cart.updateProduct id update).IsQuantified where
  products := forall_mem_update counted quantified.products
  services := quantified.services

theorem updateService (id : Int) {update : ServiceLine → ServiceLine}
    (measured : ∀ line : ServiceLine, line.IsMeasured → (update line).IsMeasured) :
    (cart.updateService id update).IsQuantified where
  products := quantified.products
  services := forall_mem_update measured quantified.services

theorem setProductQuantity {id : Int} {entry : Json} {after : Cart}
    (ok : cart.setProductQuantity id entry = .ok after) : after.IsQuantified := by
  unfold Cart.setProductQuantity at ok
  split at ok
  · obtain ⟨n, counted, rest⟩ := of_bind_eq_ok ok
    obtain rfl := Except.ok.inj rest
    exact quantified.updateProduct id fun _ _ => ⟨n, rfl, Quantity.count_spec counted⟩
  · exact Except.ok.inj ok ▸ quantified

theorem setServiceQuantity {id : Int} {entry : Json} {after : Cart}
    (ok : cart.setServiceQuantity id entry = .ok after) : after.IsQuantified := by
  unfold Cart.setServiceQuantity at ok
  split at ok
  · obtain ⟨x, measured, rest⟩ := of_bind_eq_ok ok
    obtain rfl := Except.ok.inj rest
    exact quantified.updateService id fun _ _ => ⟨x, rfl, Quantity.measure_spec measured⟩
  · exact Except.ok.inj ok ▸ quantified

theorem setServiceUnit (id : Int) (unit : Option String) :
    (cart.setServiceUnit id unit).IsQuantified :=
  quantified.updateService id fun _ measured => measured

omit quantified in
theorem isCounted_of_mem_newLines {seen : List Int} {items : List (Option Product)}
    {line : ProductLine} (new : line ∈ cart.newLines seen items) : line.IsCounted := by
  induction items generalizing seen with
  | nil => cases new
  | cons item rest inductionHypothesis =>
    cases item with
    | none => exact inductionHypothesis new
    | some p =>
      unfold newLines at new
      split at new
      · exact inductionHypothesis new
      · rcases List.mem_cons.mp new with rfl | later
        · exact ProductLine.isCounted_ofProduct p
        · exact inductionHypothesis later

theorem merge (preset : Preset) : (cart.merge preset).cart.IsQuantified :=
  quantified.appendLines fun _ new => isCounted_of_mem_newLines new

end IsQuantified

end Cart

end Fitout
