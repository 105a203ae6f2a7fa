import Fitout.Proofs.Session.Path

/-!
# The slots of a selection

A selection on its own, with whatever categories it is called. Each call looks at one slot and
writes the slots one after the other. The chosen categories hang together all the same, and a call
that fails has written nothing.
-/

namespace Fitout.Selection

inductive Call where
  | selectRoom (r : Category)
  | selectElement (e : Category)
  | selectSubElement (c : Category)
  | reset

namespace Call

/-- What a call makes of a selection, if it can be made. -/
def apply (s : Selection) : Call → Except SelectionError Selection
  | selectRoom r => .ok (s.selectRoom r)
  | selectElement e => s.selectElement e
  | selectSubElement c => s.selectSubElement c
  | reset => .ok .empty

/-- A call at work on the slots. What is written stays if a later step fails. -/
def carryOut : Call → EStateM SelectionError Selection Unit
  | selectRoom r => do
    modify ({ · with room? := some r })
    modify ({ · with element? := none })
    modify ({ · with subElement? := none })
  | selectElement e => do
    match (← get).room? with
    | none => throw .roomNeeded
    | some r =>
      if e.parentId == some r.id then
        modify ({ · with element? := some e })
        modify ({ · with subElement? := none })
      else throw (.notElementOf e.id r.id)
  | selectSubElement c => do
    match (← get).element? with
    | none => throw .elementNeeded
    | some e =>
      if c.parentId == some e.id then modify ({ · with subElement? := some c })
      else throw (.notSubElementOf c.id e.id)
  | reset => do
    modify ({ · with room? := none })
    modify ({ · with element? := none })
    modify ({ · with subElement? := none })

/-- The slot above the one that a call fills holds the parent of the category to choose. -/
def Fits (s : Selection) : Call → Prop
  | selectElement e => ∃ r, s.room? = some r ∧ e.parentId = some r.id
  | selectSubElement c => ∃ e, s.element? = some e ∧ c.parentId = some e.id
  | selectRoom _ | reset => True

/-- The slots as a call leaves them: those above its own stay, those below are empty. -/
def fill (s : Selection) : Call → Selection
  | selectRoom r => ⟨some r, none, none⟩
  | selectElement e => ⟨s.room?, some e, none⟩
  | selectSubElement c => ⟨s.room?, s.element?, some c⟩
  | reset => ⟨none, none, none⟩

/-- The selection after a call, whether it failed or not. -/
def after (s : Selection) (call : Call) : Selection :=
  match call.carryOut s with
  | .ok _ t => t
  | .error _ t => t

theorem get_bind_eq {α : Type} (s : Selection)
    (next : Selection → EStateM SelectionError Selection α) : (get >>= next) s = next s s :=
  rfl

/-- Nothing is written before the last step that may fail. -/
theorem carryOut_eq (s : Selection) (call : Call) :
    call.carryOut s = match call.apply s with
      | .ok t => .ok () t
      | .error e => .error e s := by
  obtain ⟨room, element, subElement⟩ := s
  cases call with
  | selectRoom r => rfl
  | reset => rfl
  | selectElement e =>
    rw [carryOut, get_bind_eq, apply, Selection.selectElement]
    cases room with
    | none => rfl
    | some r =>
      dsimp only
      split <;> rfl
  | selectSubElement c =>
    rw [carryOut, get_bind_eq, apply, Selection.selectSubElement]
    cases element with
    | none => rfl
    | some e =>
      dsimp only
      split <;> rfl

variable {s : Selection} {call : Call}

theorem apply_of_fits (fits : call.Fits s) : call.apply s = .ok (call.fill s) := by
  cases call with
  | selectRoom r => rfl
  | reset => rfl
  | selectElement e =>
    obtain ⟨r, chosen, named⟩ := fits
    simp [apply, fill, Selection.selectElement, chosen, named]
  | selectSubElement c =>
    obtain ⟨e, chosen, named⟩ := fits
    simp [apply, fill, Selection.selectSubElement, chosen, named]

theorem fits_of_apply_eq_ok {t : Selection} (ok : call.apply s = .ok t) : call.Fits s := by
  cases call with
  | selectRoom r => exact trivial
  | reset => exact trivial
  | selectElement e =>
    obtain ⟨r, chosen, named, _⟩ := of_selectElement_eq_ok ok
    exact ⟨r, chosen, named⟩
  | selectSubElement c =>
    obtain ⟨e, chosen, named, _⟩ := of_selectSubElement_eq_ok ok
    exact ⟨e, chosen, named⟩

/-- A call fits and fills its slot, or it fails and changes nothing. -/
theorem carryOut_cases (s : Selection) (call : Call) :
    (call.Fits s ∧ call.apply s = .ok (call.fill s) ∧ call.carryOut s = .ok () (call.fill s)) ∨
      (¬ call.Fits s ∧ ∃ e, call.apply s = .error e ∧ call.carryOut s = .error e s) := by
  by_cases fits : call.Fits s
  · have applied := apply_of_fits fits
    exact .inl ⟨fits, applied, by rw [carryOut_eq, applied]⟩
  · cases applied : call.apply s with
    | ok t => exact absurd (fits_of_apply_eq_ok applied) fits
    | error e => exact .inr ⟨fits, e, rfl, by rw [carryOut_eq, applied]⟩

theorem nested_of_apply_eq_ok {t : Selection} (nested : s.Nested) (ok : call.apply s = .ok t) :
    t.Nested := by
  cases call with
  | selectRoom r =>
    obtain rfl := Except.ok.inj ok
    exact nested_selectRoom s r
  | reset =>
    obtain rfl := Except.ok.inj ok
    exact nested_empty
  | selectElement e => exact nested_of_selectElement ok
  | selectSubElement c => exact nested.of_selectSubElement ok

theorem nested_after (nested : s.Nested) (call : Call) : (call.after s).Nested := by
  rcases carryOut_cases s call with ⟨_, applied, done⟩ | ⟨_, e, _, failed⟩
  · rw [after, done]
    exact nested_of_apply_eq_ok nested applied
  · rw [after, failed]
    exact nested

end Call

/-- The selection after these calls, from the empty one. -/
def run (calls : List Call) : Selection :=
  calls.foldl (fun s call => call.after s) .empty

theorem nested_run (calls : List Call) : (run calls).Nested := by
  have onward (s : Selection) (nested : s.Nested) :
      (calls.foldl (fun s call => call.after s) s).Nested := by
    induction calls generalizing s with
    | nil => exact nested
    | cons call calls inductionHypothesis =>
      rw [List.foldl_cons]
      exact inductionHypothesis _ (Call.nested_after nested call)
  exact onward .empty nested_empty

/-- The stage that so many filled slots make. -/
def stageOf : Nat → String
  | 0 => "empty"
  | 1 => "room_chosen"
  | 2 => "element_chosen"
  | _ => "sub_element_chosen"

theorem Nested.stage_eq {s : Selection} (nested : s.Nested) :
    s.stage = stageOf s.chosen.length := by
  obtain ⟨room, element, subElement⟩ := s
  obtain ⟨hasRoom, hasElement⟩ := nested
  cases subElement with
  | none =>
    cases element with
    | none => cases room <;> rfl
    | some e =>
      obtain ⟨r, rfl, _⟩ := hasRoom e rfl
      rfl
  | some c =>
    obtain ⟨e, rfl, _⟩ := hasElement c rfl
    obtain ⟨r, rfl, _⟩ := hasRoom e rfl
    rfl

/-- After any calls the chosen categories hang together, without a gap between the slots. The next
call fills its slot and empties those below, unless its category does not belong under the one
above; then it fails and leaves all slots alone. -/
theorem calls_keep_selection_nested (calls : List Call) :
    let s := run calls
    s.Nested ∧ s.stage = stageOf s.chosen.length ∧
    ∀ call : Call,
      (call.Fits s ∧ call.apply s = .ok (call.fill s) ∧
        call.carryOut s = .ok () (call.fill s)) ∨
      (¬ call.Fits s ∧ ∃ e, call.apply s = .error e ∧ call.carryOut s = .error e s) := by
  intro s
  have nested : s.Nested := nested_run calls
  exact ⟨nested, nested.stage_eq, Call.carryOut_cases s⟩

end Fitout.Selection
