import Fitout.Category.Survey
import Fitout.Proofs.Fallible
import Fitout.Session.Plan

/-!
# What commands do to a plan

A command that succeeds leaves the selection alone, empties it, or puts a category of the installed
catalog in one of the slots. The cart it leaves alone or changes by one of the cart's operations.
-/

namespace Fitout

namespace Selection

/-- An element is chosen under the chosen room, which stays, and nothing is chosen below it. -/
theorem of_selectElement_eq_ok {s t : Selection} {e : Category}
    (ok : s.selectElement e = .ok t) :
    ∃ r, s.room? = some r ∧ e.parentId = some r.id ∧ t = ⟨some r, some e, none⟩ := by
  unfold selectElement at ok
  split at ok
  · cases ok
  · rename_i r chosen
    split at ok
    · rename_i named
      obtain rfl := Except.ok.inj ok
      exact ⟨r, chosen, beq_iff_eq.mp named, by rw [chosen]⟩
    · cases ok

/-- A sub-element is chosen under the chosen element, which stays with the room. -/
theorem of_selectSubElement_eq_ok {s t : Selection} {c : Category}
    (ok : s.selectSubElement c = .ok t) :
    ∃ e, s.element? = some e ∧ c.parentId = some e.id ∧ t = ⟨s.room?, some e, some c⟩ := by
  unfold selectSubElement at ok
  split at ok
  · cases ok
  · rename_i e chosen
    split at ok
    · rename_i named
      obtain rfl := Except.ok.inj ok
      exact ⟨e, chosen, beq_iff_eq.mp named, by rw [chosen]⟩
    · cases ok

end Selection

namespace Plan

open Catalog

/-- What a command may do to a selection. -/
inductive Moves (store : Store) (s : Selection) : Selection → Prop where
  | kept : Moves store s s
  | reset : Moves store s .empty
  | room {snapshot : Snapshot} {c : Category} (installed : store.installed = some snapshot)
      (listed : snapshot.category? c.id = some c) (root : snapshot.tree.isRoot c.id = true) :
      Moves store s (s.selectRoom c)
  | element {snapshot : Snapshot} {c : Category} {t : Selection}
      (installed : store.installed = some snapshot)
      (listed : snapshot.category? c.id = some c) (ok : s.selectElement c = .ok t) :
      Moves store s t
  | subElement {snapshot : Snapshot} {c : Category} {t : Selection}
      (installed : store.installed = some snapshot)
      (listed : snapshot.category? c.id = some c) (ok : s.selectSubElement c = .ok t) :
      Moves store s t

/-- What a command may do to a cart. -/
inductive Stocks (store : Store) (cart : Cart) : Cart → Prop where
  | kept : Stocks store cart cart
  | cleared : Stocks store cart .empty
  | product {id : Int} {p : Product} (found : store.product id = .ok p) :
      Stocks store cart (cart.addProduct p).1
  | service {id : Int} {s : Service} (found : store.service id = .ok s) :
      Stocks store cart (cart.addService s).1
  | preset {id : Int} {p : Preset} (found : store.preset id = .ok p) :
      Stocks store cart (cart.merge p).cart
  | withoutProduct (id : Int) : Stocks store cart (cart.removeProduct id).1
  | withoutService (id : Int) : Stocks store cart (cart.removeService id).1
  | counted {id : Int} {entry : Json} {after : Cart}
      (ok : cart.setProductQuantity id entry = .ok after) : Stocks store cart after
  | measured {id : Int} {entry : Json} {after : Cart}
      (ok : cart.setServiceQuantity id entry = .ok after) : Stocks store cart after
  | labelled {after : Cart} (before : Stocks store cart after) (id : Int) (unit : Option String) :
      Stocks store cart (after.setServiceUnit id unit)

theorem of_ofDomain_eq_ok {α : Type} {x : Except DomainError α} {a : α}
    (ok : Refusal.ofDomain x = .ok a) : x = .ok a := by
  cases x with
  | error e => cases ok
  | ok b => exact congrArg _ (Except.ok.inj ok)

theorem of_ofOverflow_eq_ok {α : Type} {x : Except Overflow α} {a : α}
    (ok : Refusal.ofOverflow x = .ok a) : x = .ok a := by
  cases x with
  | error e => cases ok
  | ok b => exact congrArg _ (Except.ok.inj ok)

theorem of_ofSelection_eq_ok {x : Except SelectionError Selection} {s : Selection}
    (ok : ofSelection x = .ok s) : x = .ok s := by
  cases x with
  | error e => cases ok
  | ok t => exact congrArg _ (Except.ok.inj ok)

theorem of_current_eq_ok {store : Store} {snapshot : Snapshot}
    (ok : store.current = .ok snapshot) : store.installed = some snapshot := by
  unfold Store.current at ok
  split at ok
  · obtain rfl := Except.ok.inj ok
    assumption
  · cases ok

theorem of_category_eq_ok {store : Store} {id : Int} {c : Category}
    (ok : store.category id = .ok c) :
    ∃ snapshot, store.installed = some snapshot ∧ snapshot.category? c.id = some c ∧ c.id = id := by
  obtain ⟨snapshot, current, rest⟩ := of_bind_eq_ok ok
  split at rest
  · rename_i d found
    rw [Except.ok.inj rest] at found
    have same : c.id = id := (Category.of_find?_eq_some found).2
    exact ⟨snapshot, of_current_eq_ok current, same ▸ found, same⟩
  · cases rest

variable {store : Store} {names : Pricing.MarketNames} {plan : Plan}

theorem moves_selectRoom {id : Int} {done : Done} (ok : plan.selectRoom store id = .ok done) :
    Moves store plan.selection done.plan.selection := by
  obtain ⟨snapshot, current, rest⟩ := of_bind_eq_ok ok
  obtain ⟨category, found, rest⟩ := of_bind_eq_ok rest
  have installed := of_current_eq_ok (of_ofDomain_eq_ok current)
  obtain ⟨other, otherInstalled, listed, rfl⟩ := of_category_eq_ok (of_ofDomain_eq_ok found)
  obtain rfl := Option.some.inj (installed.symm.trans otherInstalled)
  split at rest
  · rename_i root
    obtain rfl := Except.ok.inj rest
    exact .room installed listed root
  · cases rest

theorem moves_selectElement {id : Int} {done : Done}
    (ok : plan.selectElement store id = .ok done) :
    Moves store plan.selection done.plan.selection := by
  obtain ⟨category, found, rest⟩ := of_bind_eq_ok ok
  obtain ⟨selection, chosen, rest⟩ := of_bind_eq_ok rest
  obtain ⟨snapshot, installed, listed, _⟩ := of_category_eq_ok (of_ofDomain_eq_ok found)
  obtain rfl := Except.ok.inj rest
  exact .element installed listed (of_ofSelection_eq_ok chosen)

theorem moves_selectSubElement {id : Int} {done : Done}
    (ok : plan.selectSubElement store id = .ok done) :
    Moves store plan.selection done.plan.selection := by
  obtain ⟨category, found, rest⟩ := of_bind_eq_ok ok
  obtain ⟨selection, chosen, rest⟩ := of_bind_eq_ok rest
  obtain ⟨snapshot, installed, listed, _⟩ := of_category_eq_ok (of_ofDomain_eq_ok found)
  obtain rfl := Except.ok.inj rest
  exact .subElement installed listed (of_ofSelection_eq_ok chosen)

theorem selection_setProductQuantity {id : Int} {entry : Json} {done : Done}
    (ok : plan.setProductQuantity id entry = .ok done) :
    done.plan.selection = plan.selection := by
  obtain ⟨cart, _, rest⟩ := of_bind_eq_ok ok
  obtain rfl := Except.ok.inj rest
  rfl

theorem selection_updateService {id : Int} {entry : Json} {unit : Option String} {done : Done}
    (ok : plan.updateService id entry unit = .ok done) :
    done.plan.selection = plan.selection := by
  have same {cart : Cart} (rest : (.ok (plan.withCart .updateService cart) : Outcome) = .ok done) :
      done.plan.selection = plan.selection := by
    obtain rfl := Except.ok.inj rest
    rfl
  unfold updateService at ok
  cases unit with
  | none =>
    dsimp only at ok
    split at ok
    · exact same ok
    · obtain ⟨cart, _, rest⟩ := of_bind_eq_ok ok
      exact same rest
  | some unit =>
    dsimp only at ok
    split at ok
    · exact same ok
    · obtain ⟨cart, _, rest⟩ := of_bind_eq_ok ok
      exact same rest

theorem moves_run {command : Command} {done : Done}
    (ok : plan.run store names command = .ok done) :
    Moves store plan.selection done.plan.selection := by
  have kept (same : done.plan.selection = plan.selection) :
      Moves store plan.selection done.plan.selection := same ▸ .kept
  cases command with
  | selectRoom id => exact moves_selectRoom ok
  | selectElement id => exact moves_selectElement ok
  | selectSubElement id => exact moves_selectSubElement ok
  | resetSelection =>
    obtain rfl := Except.ok.inj ok
    exact .reset
  | get | removeProduct _ | removeService _ | clearCart | setMarket _ | coefficient =>
    obtain rfl := Except.ok.inj ok
    exact .kept
  | setProductQuantity id entry => exact kept (selection_setProductQuantity ok)
  | updateService id entry unit => exact kept (selection_updateService ok)
  | selectionOptions | listProducts | addProduct _ | addService _ | applyPreset _ =>
    obtain ⟨_, _, rest⟩ := of_bind_eq_ok ok
    obtain rfl := Except.ok.inj rest
    exact .kept
  | total =>
    obtain ⟨_, _, rest⟩ := of_bind_eq_ok ok
    obtain rfl := Except.ok.inj rest
    exact .kept

theorem stocks_updateService {id : Int} {entry : Json} {unit : Option String} {done : Done}
    (ok : plan.updateService id entry unit = .ok done) :
    Stocks store plan.cart done.plan.cart := by
  cases entry with
  | null =>
    obtain rfl := Except.ok.inj ok
    cases unit with
    | none => exact .kept
    | some unit => exact Stocks.kept.labelled id (some unit)
  | _ =>
    obtain ⟨cart, measured, rest⟩ := of_bind_eq_ok ok
    have measured : Stocks store plan.cart cart := .measured (of_ofOverflow_eq_ok measured)
    obtain rfl := Except.ok.inj rest
    cases unit with
    | none => exact measured
    | some unit => exact measured.labelled id (some unit)

theorem stocks_run {command : Command} {done : Done}
    (ok : plan.run store names command = .ok done) :
    Stocks store plan.cart done.plan.cart := by
  cases command with
  | get | resetSelection | setMarket _ | coefficient =>
    obtain rfl := Except.ok.inj ok
    exact .kept
  | selectionOptions | listProducts | total =>
    obtain ⟨_, _, rest⟩ := of_bind_eq_ok ok
    obtain rfl := Except.ok.inj rest
    exact .kept
  | selectElement _ | selectSubElement _ =>
    obtain ⟨_, _, rest⟩ := of_bind_eq_ok ok
    obtain ⟨_, _, rest⟩ := of_bind_eq_ok rest
    obtain rfl := Except.ok.inj rest
    exact .kept
  | selectRoom id =>
    obtain ⟨_, _, rest⟩ := of_bind_eq_ok ok
    obtain ⟨_, _, rest⟩ := of_bind_eq_ok rest
    split at rest
    · obtain rfl := Except.ok.inj rest
      exact .kept
    · cases rest
  | addProduct id =>
    obtain ⟨p, found, rest⟩ := of_bind_eq_ok ok
    obtain rfl := Except.ok.inj rest
    exact .product (of_ofDomain_eq_ok found)
  | addService id =>
    obtain ⟨s, found, rest⟩ := of_bind_eq_ok ok
    obtain rfl := Except.ok.inj rest
    exact .service (of_ofDomain_eq_ok found)
  | applyPreset id =>
    obtain ⟨p, found, rest⟩ := of_bind_eq_ok ok
    obtain rfl := Except.ok.inj rest
    exact .preset (of_ofDomain_eq_ok found)
  | removeProduct id =>
    obtain rfl := Except.ok.inj ok
    exact .withoutProduct id
  | removeService id =>
    obtain rfl := Except.ok.inj ok
    exact .withoutService id
  | clearCart =>
    obtain rfl := Except.ok.inj ok
    exact .cleared
  | setProductQuantity id entry =>
    obtain ⟨cart, counted, rest⟩ := of_bind_eq_ok ok
    obtain rfl := Except.ok.inj rest
    exact .counted (of_ofOverflow_eq_ok counted)
  | updateService id entry unit => exact stocks_updateService ok

end Plan

end Fitout
