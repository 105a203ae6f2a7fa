import Mathlib.Data.List.Forall2

/-!
# Computations that may fail

What a result says of the parts that it came from.
-/

namespace Fitout

variable {ε α β : Type}

theorem of_bind_eq_ok {x : Except ε α} {f : α → Except ε β} {b : β} (ok : x >>= f = .ok b) :
    ∃ a, x = .ok a ∧ f a = .ok b := by
  cases x with
  | error e => cases ok
  | ok a => exact ⟨a, rfl, ok⟩

theorem of_map_eq_ok {x : Except ε α} {f : α → β} {b : β} (ok : x.map f = .ok b) :
    ∃ a, x = .ok a ∧ f a = b := by
  cases x with
  | error e => cases ok
  | ok a => exact ⟨a, rfl, Except.ok.inj ok⟩

theorem exists_eq_ok_of_isOk {x : Except ε α} (ok : x.isOk = true) : ∃ a, x = .ok a := by
  cases x with
  | error e => cases ok
  | ok a => exact ⟨a, rfl⟩

theorem toOption_eq_some_iff {x : Except ε α} {a : α} : x.toOption = some a ↔ x = .ok a := by
  cases x <;> simp [Except.toOption]

theorem of_toOption_eq_some {x : Except ε α} {a : α} (given : x.toOption = some a) : x = .ok a :=
  toOption_eq_some_iff.mp given

theorem forall₂_of_mapM_eq_ok {f : α → Except ε β} {l : List α} {bs : List β}
    (ok : l.mapM f = .ok bs) : List.Forall₂ (fun a b => f a = .ok b) l bs := by
  induction l generalizing bs with
  | nil =>
    obtain rfl := Except.ok.inj ok
    exact .nil
  | cons a rest inductionHypothesis =>
    rw [List.mapM_cons] at ok
    obtain ⟨b, given, later⟩ := of_bind_eq_ok ok
    obtain ⟨bs, givenLater, same⟩ := of_bind_eq_ok later
    obtain rfl := Except.ok.inj same
    exact .cons given (inductionHypothesis givenLater)

theorem forall_mem_of_forall₂ {R : α → β → Prop} {P : β → Prop} (each : ∀ a b, R a b → P b)
    {l : List α} {bs : List β} (related : List.Forall₂ R l bs) : ∀ b ∈ bs, P b := by
  induction related with
  | nil =>
    intro b member
    cases member
  | cons first _ inductionHypothesis =>
    exact List.forall_mem_cons.mpr ⟨each _ _ first, inductionHypothesis⟩

theorem exists_mapM_eq_ok {f : α → Except ε β} {R : α → β → Prop} {l : List α}
    (each : ∀ a ∈ l, ∃ b, f a = .ok b ∧ R a b) :
    ∃ bs, l.mapM f = .ok bs ∧ List.Forall₂ R l bs := by
  induction l with
  | nil => exact ⟨[], rfl, .nil⟩
  | cons a rest inductionHypothesis =>
    obtain ⟨⟨b, given, related⟩, later⟩ := List.forall_mem_cons.mp each
    obtain ⟨bs, givenLater, relatedLater⟩ := inductionHypothesis later
    refine ⟨b :: bs, ?_, .cons related relatedLater⟩
    rw [List.mapM_cons, given, givenLater]
    rfl

end Fitout
