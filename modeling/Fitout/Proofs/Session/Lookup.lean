import Mathlib.Algebra.Order.Group.Int
import Mathlib.Algebra.Order.Group.Unbundled.Basic
import Fitout.Session.Configurator

/-!
# What is found under an id

Putting a session and erasing one leave what other ids have as it is. Eviction goes by time alone:
what it drops would be dropped at any later time as well.
-/

namespace Fitout.Registry

variable {T : Type}

/-- The sessions of an id, of which the first one counts. -/
def sessionsOf (r : Registry T) (id : String) : List (Session T) :=
  r.sessions.filter (·.id == id)

theorem find?_eq_head? (r : Registry T) (id : String) : r.find? id = (r.sessionsOf id).head? :=
  (List.head?_filter ..).symm

theorem sessionsOf_put_self (r : Registry T) (s : Session T) :
    (r.put s).sessionsOf s.id = (r.sessionsOf s.id).map fun _ => s := by
  have replaced : ∀ old ∈ r.sessions.filter (·.id == s.id),
      (if old.id == s.id then s else old) = s :=
    fun old member => if_pos (List.mem_filter.mp member).2
  have asked : ∀ old ∈ r.sessions,
      ((if old.id == s.id then s else old).id == s.id) = (old.id == s.id) := by
    intro old _
    by_cases here : old.id = s.id <;> simp [here]
  simp only [sessionsOf, put, List.filter_map, Function.comp_def]
  rw [List.filter_congr asked, List.map_congr_left replaced]

theorem sessionsOf_put_of_ne (r : Registry T) {s : Session T} {id : String} (other : s.id ≠ id) :
    (r.put s).sessionsOf id = r.sessionsOf id := by
  have kept : ∀ old ∈ r.sessions.filter (·.id == id),
      (if old.id == s.id then s else old) = old := by
    intro old member
    have here : old.id = id := beq_iff_eq.mp (List.mem_filter.mp member).2
    simp [here, other.symm]
  have asked : ∀ old ∈ r.sessions,
      ((if old.id == s.id then s else old).id == id) = (old.id == id) := by
    intro old _
    by_cases here : old.id = s.id <;> simp [here]
  simp only [sessionsOf, put, List.filter_map, Function.comp_def]
  rw [List.filter_congr asked, List.map_congr_left kept, List.map_id']

theorem isSome_find? (r : Registry T) (id : String) :
    (r.find? id).isSome = !(r.sessionsOf id).isEmpty := by
  rw [find?_eq_head?]
  cases r.sessionsOf id <;> rfl

theorem sessionsOf_enter_self (r : Registry T) (s : Session T) :
    (r.enter s).sessionsOf s.id =
      if (r.sessionsOf s.id).isEmpty then [s] else (r.sessionsOf s.id).map fun _ => s := by
  have taken := r.isSome_find? s.id
  cases free : (r.sessionsOf s.id).isEmpty with
  | false =>
    rw [free] at taken
    rw [if_neg Bool.false_ne_true, ← sessionsOf_put_self]
    simp only [sessionsOf, enter, taken, Bool.not_false, if_true]
  | true =>
    rw [free] at taken
    have none : r.sessions.filter (·.id == s.id) = [] := List.isEmpty_iff.mp free
    simp [sessionsOf, enter, taken, none]

theorem sessionsOf_enter_of_ne (r : Registry T) {s : Session T} {id : String}
    (other : s.id ≠ id) : (r.enter s).sessionsOf id = r.sessionsOf id := by
  cases taken : (r.find? s.id).isSome with
  | false => simp [sessionsOf, enter, taken, other]
  | true =>
    rw [← r.sessionsOf_put_of_ne other]
    simp only [sessionsOf, enter, taken, if_true]

theorem erase_eq_self {r : Registry T} {id : String} (missed : r.find? id = none) :
    r.erase id = r := by
  obtain ⟨sessions, created, ttl⟩ := r
  have absent : ∀ s ∈ sessions, ¬ (s.id == id) = true := List.find?_eq_none.mp missed
  have kept : sessions.filter (·.id != id) = sessions :=
    List.filter_eq_self.mpr fun s listed => by simpa using absent s listed
  simp only [erase, kept]

theorem sessionsOf_erase_self (r : Registry T) (id : String) : (r.erase id).sessionsOf id = [] := by
  simp [sessionsOf, erase, List.filter_filter]

theorem sessionsOf_erase_of_ne (r : Registry T) {id other : String} (differs : other ≠ id) :
    (r.erase other).sessionsOf id = r.sessionsOf id := by
  simp only [sessionsOf, erase, List.filter_filter]
  apply List.filter_congr
  intro s _
  by_cases here : s.id = id
  · simp [here, differs.symm]
  · simp [here]

theorem eq_of_mem_put {r : Registry T} {new s : Session T} (listed : s ∈ (r.put new).sessions)
    (same : s.id = new.id) : s = new := by
  have member : s ∈ (r.put new).sessionsOf new.id :=
    List.mem_filter.mpr ⟨listed, beq_iff_eq.mpr same⟩
  rw [sessionsOf_put_self] at member
  obtain ⟨_, _, rfl⟩ := List.mem_map.mp member
  rfl

section Evict

variable [Sub T] [LT T] [DecidableLT T]

theorem sessionsOf_evict (r : Registry T) (now : T) (id : String) :
    (r.evict now).sessionsOf id = (r.sessionsOf id).filter (!r.isExpired now ·) := by
  simp only [sessionsOf, evict, List.filter_filter, Bool.and_comm]

theorem sessionsOf_evict_congr {r r' : Registry T} {id : String} (ttl : r.ttl = r'.ttl)
    (same : r.sessionsOf id = r'.sessionsOf id) (now : T) :
    (r.evict now).sessionsOf id = (r'.evict now).sessionsOf id := by
  simp only [sessionsOf_evict, isExpired, same, ttl]

/-- A session that was just put is found, unless it is expired by then. -/
theorem find?_evict_put {r : Registry T} {now : T} {old new : Session T}
    (found : r.find? new.id = some old) (alive : r.isExpired now new = false) :
    ((r.put new).evict now).find? new.id = some new := by
  rw [find?_eq_head?] at found ⊢
  obtain ⟨rest, sessions⟩ := List.head?_eq_some_iff.mp found
  have alive : (r.put new).isExpired now new = false := alive
  simp [sessionsOf_evict, sessionsOf_put_self, sessions, alive]

end Evict

section Clock

variable [AddCommGroup T] [LinearOrder T] [IsOrderedAddMonoid T] {now later : T}

theorem isExpired_of_le {r : Registry T} (order : now ≤ later) {s : Session T}
    (expired : r.isExpired now s = true) : r.isExpired later s = true := by
  have idle : r.ttl < now - s.lastSeen := of_decide_eq_true expired
  exact decide_eq_true (idle.trans_le (sub_le_sub_right order s.lastSeen))

/-- What was evicted would be evicted later. -/
theorem evict_evict (r : Registry T) (order : now ≤ later) :
    (r.evict now).evict later = r.evict later := by
  simp only [evict, List.filter_filter]
  congr 1
  apply List.filter_congr
  intro s _
  change (!r.isExpired later s && !r.isExpired now s) = !r.isExpired later s
  cases expired : r.isExpired now s with
  | false => simp
  | true => simp [isExpired_of_le order expired]

end Clock

end Fitout.Registry
