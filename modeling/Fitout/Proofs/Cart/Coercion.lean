import Fitout.Proofs.Cart.History
import Fitout.Proofs.Decimal.Double

/-!
# What entries count as

Every entry counts as a number of at least one, except for a whole number that is too large for a
double: it is an error, and so is setting it as the quantity of a line.
-/

namespace Fitout.Quantity

def isBeyondDouble : Json → Bool
  | .number (.whole n) => decide (Decimal.Double.wholeLimit ≤ n.natAbs)
  | _ => false

variable {entry : Json}

theorem floatOfInt_eq (n : Int) : Number.floatOfInt n =
    if n.natAbs < Decimal.Double.wholeLimit then .ok (Float.ofInt n) else .error .beyondDouble := by
  simp only [Number.floatOfInt, Decimal.Double.isFinite_ofInt_iff]

theorem amount?_of_beyond (beyond : isBeyondDouble entry = true) :
    amount? entry = .error .beyondDouble := by
  cases entry with
  | number n =>
    cases n with
    | whole n =>
      have large : ¬ n.natAbs < Decimal.Double.wholeLimit := by simpa [isBeyondDouble] using beyond
      rw [amount?, Number.toFloat, floatOfInt_eq, if_neg large]
      rfl
    | real x => cases beyond
  | null | bool b | text s | list items | object members => cases beyond

theorem count_of_beyond (beyond : isBeyondDouble entry = true) :
    count entry = .error .beyondDouble := by
  rw [count, amount?_of_beyond beyond]
  rfl

theorem measure_of_beyond (beyond : isBeyondDouble entry = true) :
    measure entry = .error .beyondDouble := by
  rw [measure, amount?_of_beyond beyond]
  rfl

/-- Only finite numbers count. -/
theorem amount?_of_not_beyond (inside : isBeyondDouble entry = false) :
    ∃ amount, amount? entry = .ok amount ∧ ∀ x, amount = some x → x.isFinite = true := by
  cases entry with
  | number n =>
    have known : ∃ x, n.toFloat = .ok x := by
      cases n with
      | whole n =>
        have small : n.natAbs < Decimal.Double.wholeLimit := by simpa [isBeyondDouble] using inside
        exact ⟨_, (floatOfInt_eq n).trans (if_pos small)⟩
      | real x => exact ⟨x, rfl⟩
    obtain ⟨x, known⟩ := known
    refine ⟨if x.isFinite then some x else none, by rw [amount?, known]; rfl, ?_⟩
    intro y same
    split at same
    · next finite =>
      cases same
      exact finite
    · cases same
  | text s => exact ⟨_, rfl, fun x same => (Option.filter_eq_some_iff.mp same).2⟩
  | null | bool b | list items | object members => exact ⟨none, rfl, fun x same => by cases same⟩

theorem one_le_wholeCount (x : Float) : 1 ≤ wholeCount x := by
  unfold wholeCount
  split
  · exact le_max_left _ _
  · exact le_rfl

theorem atLeastOne_spec {x : Float} (finite : x.isFinite = true) :
    (atLeastOne x).isFinite = true ∧ 1 ≤ atLeastOne x := by
  unfold atLeastOne
  split
  · decide +kernel
  · next notLess => exact ⟨finite, Decimal.Double.le_of_not_lt finite (by decide +kernel) notLess⟩

/-- An entry is refused or gives a count and a measure, and setting it does accordingly. -/
theorem entry_counts_unless_beyondDouble (entry : Json) :
    match isBeyondDouble entry with
    | false => ∃ c x, count entry = .ok c ∧ 1 ≤ c ∧
        measure entry = .ok x ∧ x.isFinite = true ∧ 1 ≤ x ∧ ∀ (cart : Cart) (id : Int),
          cart.setProductQuantity id entry =
            .ok (cart.updateProduct id ({ · with quantity := some (.whole c) })) ∧
          cart.setServiceQuantity id entry =
            .ok (cart.updateService id ({ · with quantity := some (.real x) }))
    | true => count entry = .error .beyondDouble ∧ measure entry = .error .beyondDouble ∧
        ∀ (cart : Cart) (id : Int),
          cart.setProductQuantity id entry =
            (if cart.hasProduct id then .error .beyondDouble else .ok cart) ∧
          cart.setServiceQuantity id entry =
            (if cart.hasService id then .error .beyondDouble else .ok cart) := by
  cases beyond : isBeyondDouble entry with
  | false =>
    obtain ⟨amount, known, finite⟩ := amount?_of_not_beyond beyond
    have counted : count entry = .ok (amount.elim 1 wholeCount) := by
      rw [count, known]
      rfl
    have measured : measure entry = .ok (amount.elim 1 atLeastOne) := by
      rw [measure, known]
      rfl
    have positive : 1 ≤ amount.elim 1 wholeCount := by
      cases amount with
      | none => exact le_rfl
      | some x => exact one_le_wholeCount x
    have bounded : (amount.elim 1 atLeastOne).isFinite = true ∧ 1 ≤ amount.elim 1 atLeastOne := by
      cases amount with
      | none => decide +kernel
      | some x => exact atLeastOne_spec (finite x rfl)
    refine ⟨_, _, counted, positive, measured, bounded.1, bounded.2, ?_⟩
    intro cart id
    exact ⟨cart.setProductQuantity_of_count_eq_ok id counted,
      cart.setServiceQuantity_of_measure_eq_ok id measured⟩
  | true =>
    refine ⟨count_of_beyond beyond, measure_of_beyond beyond, ?_⟩
    intro cart id
    exact ⟨cart.setProductQuantity_of_count_eq_error id (count_of_beyond beyond),
      cart.setServiceQuantity_of_measure_eq_error id (measure_of_beyond beyond)⟩

/-- A line is there, and its quantity cannot be set. -/
theorem long_number_is_refused :
    let entry : Json := .whole (10 ^ 309)
    let cart : Cart := ⟨[⟨1, 0, none, ""⟩], [⟨1, 0, none, "", ""⟩]⟩
    count entry = .error .beyondDouble ∧ measure entry = .error .beyondDouble ∧
      cart.setProductQuantity 1 entry = .error .beyondDouble ∧
      cart.setServiceQuantity 1 entry = .error .beyondDouble := by
  have beyond : isBeyondDouble (.whole (10 ^ 309)) = true := by decide +kernel
  exact ⟨count_of_beyond beyond, measure_of_beyond beyond,
    Cart.setProductQuantity_of_count_eq_error _ 1 (count_of_beyond beyond),
    Cart.setServiceQuantity_of_measure_eq_error _ 1 (measure_of_beyond beyond)⟩

end Fitout.Quantity
