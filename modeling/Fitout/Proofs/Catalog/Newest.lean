import Fitout.Catalog.Refresh
import Mathlib.Data.List.Nodup

/-!
# The newest answer wins

Refreshes of one store start and are answered in any order. A history keeps what their callers
can see: which ticket each refresh took, and how it was answered. The central invariant ties the
store to the history: what is installed was built from the data answered to the refresh with the
largest ticket, and tickets rise in the order of the starts.
-/

namespace Fitout.Catalog

namespace Store

/-- Of the installed snapshot and an offered one, the one that bears the larger ticket stays. -/
theorem installed_place (store : Store) (offered : Snapshot) :
    (store.place offered).2.installed = some offered ∧
        (∀ current, store.installed = some current → current.ticket < offered.ticket) ∨
      ∃ current, store.installed = some current ∧ offered.ticket ≤ current.ticket ∧
        (store.place offered).2.installed = some current := by
  unfold place
  cases present : store.installed with
  | none => exact .inl ⟨rfl, by simp⟩
  | some current =>
    by_cases late : offered.ticket ≤ current.ticket
    · exact .inr ⟨current, rfl, late, by simp [late, present]⟩
    · refine .inl ⟨by simp [late], ?_⟩
      intro other same
      obtain rfl := Option.some.inj same
      exact Int.not_le.mp late

@[simp] theorem issued_place (store : Store) (offered : Snapshot) :
    (store.place offered).2.issued = store.issued := by
  unfold place
  split
  · split <;> rfl
  · rfl

variable {ε : Type} (message : ε → String) (store : Store) (ticket : Int)

@[simp] theorem answer_ok (data : Data) :
    (store.answer message ticket (.ok data)).1 = (store.place (.build ticket data)).2 := rfl

@[simp] theorem answer_error (e : ε) :
    (store.answer message ticket (.error e)).1 = store := rfl

end Store

namespace Refreshes

variable {ε : Type}

/-- What can happen to a store whose snapshots come from refreshes only. -/
inductive Action (ε : Type) where
  | start
  /-- A ticket is taken for something else. -/
  | ticket
  | finish (number : Nat) (answer : Except ε Data)

def step (message : ε → String) (r : Refreshes ε) : Action ε → Refreshes ε
  | .start => r.start
  | .ticket => { r with store := r.store.takeTicket.2 }
  | .finish number answer => (r.finish message number answer).1

/-- The refreshes after these actions, on a store that was empty. -/
def run (message : ε → String) (trace : List (Action ε)) : Refreshes ε :=
  trace.foldl (step message) .empty

theorem run_append (message : ε → String) (trace more : List (Action ε)) :
    run message (trace ++ more) = more.foldl (step message) (run message trace) :=
  List.foldl_append

/-- What the caller of a refresh saw: its ticket, and its answer once there is one. -/
structure Told (ε : Type) where
  ticket : Int
  answer : Option (Except ε Data)

def Told.hear (told : Told ε) (answer : Except ε Data) : Told ε :=
  { told with answer := told.answer.or (some answer) }

/-- The refreshes in the order of their starts, and how many tickets were handed out. -/
structure History (ε : Type) where
  issued : Nat
  told : List (Told ε)

namespace History

def step (h : History ε) : Action ε → History ε
  | .start => ⟨h.issued + 1, h.told ++ [⟨h.issued + 1, none⟩]⟩
  | .ticket => { h with issued := h.issued + 1 }
  | .finish 0 _ => h
  | .finish (place + 1) answer => { h with told := h.told.modify place (·.hear answer) }

def ofTrace (trace : List (Action ε)) : History ε :=
  trace.foldl step ⟨0, []⟩

theorem ofTrace_append (trace more : List (Action ε)) :
    ofTrace (trace ++ more) = more.foldl step (ofTrace trace) :=
  List.foldl_append

/-- The refresh with this ticket was answered with this data. -/
def Loaded (h : History ε) (ticket : Int) (data : Data) : Prop :=
  ⟨ticket, some (.ok data)⟩ ∈ h.told

/-- Of all refreshes answered with data, the one with this ticket was started last. -/
def Newest (h : History ε) (ticket : Int) (data : Data) : Prop :=
  h.Loaded ticket data ∧ ∀ other otherData, h.Loaded other otherData → other ≤ ticket

@[simp] theorem step_start (h : History ε) :
    h.step .start = ⟨h.issued + 1, h.told ++ [⟨h.issued + 1, none⟩]⟩ := rfl

@[simp] theorem step_ticket (h : History ε) :
    h.step .ticket = ⟨h.issued + 1, h.told⟩ := rfl

@[simp] theorem step_finish_succ (h : History ε) (place : Nat) (answer : Except ε Data) :
    h.step (.finish (place + 1) answer) =
      ⟨h.issued, h.told.modify place (·.hear answer)⟩ := rfl

/-- Tickets rise in the order of the starts, up to the last one handed out. -/
structure Ordered (h : History ε) : Prop where
  rising : (h.told.map Told.ticket).Pairwise (· < ·)
  handedOut : ∀ ticket ∈ h.told.map Told.ticket, ticket ≤ h.issued

theorem map_ticket_hear (told : List (Told ε)) (place : Nat) (answer : Except ε Data) :
    (told.modify place (·.hear answer)).map Told.ticket = told.map Told.ticket := by
  induction told generalizing place with
  | nil => simp
  | cons first rest inductionHypothesis =>
    cases place with
    | zero => simp [Told.hear]
    | succ place => simpa using inductionHypothesis place

theorem Ordered.step {h : History ε} (ordered : h.Ordered) (action : Action ε) :
    (h.step action).Ordered := by
  cases action with
  | start =>
    constructor
    · simp only [step_start, List.map_append, List.map_cons, List.map_nil]
      refine List.pairwise_append.mpr ⟨ordered.rising, by simp, ?_⟩
      intro earlier earlierMem later laterMem
      have earlierLe := ordered.handedOut earlier earlierMem
      obtain rfl := List.mem_singleton.mp laterMem
      omega
    · intro ticket ticketMem
      simp only [step_start, List.map_append, List.mem_append, List.map_cons, List.map_nil,
        List.mem_singleton] at ticketMem
      rcases ticketMem with earlier | rfl
      · have earlierLe := ordered.handedOut ticket earlier
        simp only [step_start]
        omega
      · simp
  | ticket =>
    refine ⟨ordered.rising, fun ticket ticketMem => ?_⟩
    have ticketLe := ordered.handedOut ticket ticketMem
    simp only [step_ticket]
    omega
  | finish number answer =>
    cases number with
    | zero => exact ordered
    | succ place =>
      constructor
      · simpa [map_ticket_hear] using ordered.rising
      · simpa only [step_finish_succ, map_ticket_hear] using ordered.handedOut

theorem Ordered.eq_of_ticket {h : History ε} (ordered : h.Ordered) {first second : Told ε}
    (firstMem : first ∈ h.told) (secondMem : second ∈ h.told)
    (same : first.ticket = second.ticket) : first = second :=
  List.inj_on_of_nodup_map (ordered.rising.imp Int.ne_of_lt) firstMem secondMem same

theorem Ordered.loaded_unique {h : History ε} (ordered : h.Ordered) {ticket : Int}
    {data other : Data} (loaded : h.Loaded ticket data) (again : h.Loaded ticket other) :
    data = other := by
  have same := ordered.eq_of_ticket loaded again rfl
  injection same with _ answers
  injection answers with answers
  exact Except.ok.inj answers

theorem Ordered.newest_unique {h : History ε} (ordered : h.Ordered) {ticket other : Int}
    {data otherData : Data} (newest : h.Newest ticket data) (again : h.Newest other otherData) :
    ticket = other ∧ data = otherData := by
  have same : ticket = other :=
    Int.le_antisymm (again.2 _ _ newest.1) (newest.2 _ _ again.1)
  subst same
  exact ⟨rfl, ordered.loaded_unique newest.1 again.1⟩

theorem hear_told {told : List (Told ε)} {place : Nat}
    (answered : ∀ ticket, told[place]? ≠ some ⟨ticket, none⟩) (answer : Except ε Data) :
    told.modify place (·.hear answer) = told := by
  refine List.ext_getElem? fun index => ?_
  by_cases here : place = index
  · subst here
    rw [List.getElem?_modify_eq]
    cases found : told[place]? with
    | none => rfl
    | some one =>
      obtain ⟨ticket, heard⟩ := one
      cases heard with
      | none => exact absurd found (answered ticket)
      | some heard => rfl
  · exact List.getElem?_modify_ne _ _ here

/-- What an answer adds for the refresh that was waiting for it. -/
theorem loaded_hear_iff {h : History ε} {place : Nat} {ticket : Int}
    (waiting : h.told[place]? = some ⟨ticket, none⟩) (answer : Except ε Data)
    (other : Int) (data : Data) :
    (h.step (.finish (place + 1) answer)).Loaded other data ↔
      h.Loaded other data ∨ other = ticket ∧ answer = .ok data := by
  simp only [Loaded, step_finish_succ, List.mem_iff_getElem?]
  constructor
  · rintro ⟨index, found⟩
    by_cases here : place = index
    · subst here
      rw [List.getElem?_modify_eq, waiting] at found
      obtain ⟨rfl, heard⟩ := Told.mk.inj (Option.some.inj found)
      exact .inr ⟨rfl, Option.some.inj heard⟩
    · rw [List.getElem?_modify_ne _ _ here] at found
      exact .inl ⟨index, found⟩
  · rintro (⟨index, found⟩ | ⟨rfl, rfl⟩)
    · refine ⟨index, ?_⟩
      have elsewhere : place ≠ index := by
        rintro rfl
        rw [waiting] at found
        cases found
      rw [List.getElem?_modify_ne _ _ elsewhere, found]
    · exact ⟨place, by rw [List.getElem?_modify_eq, waiting]; rfl⟩

end History

theorem call?_set {r : Refreshes ε} {number : Nat} {old : Refresh ε}
    (found : r.call? number = some old) (call : Refresh ε) (store : Store) :
    (Refreshes.mk store (r.calls.set (number - 1) call)).call? number = some call := by
  cases number with
  | zero => cases found
  | succ place =>
    have bound : place < r.calls.length := (List.getElem?_eq_some_iff.mp found).1
    exact List.getElem?_set_self bound

variable (message : ε → String)

theorem step_finish_idle {r : Refreshes ε} {number : Nat} (answer : Except ε Data)
    (idle : ∀ ticket, r.call? number ≠ some (.waiting ticket)) :
    r.step message (.finish number answer) = r := by
  -- The assumption rules the branch of a waiting refresh out.
  simp only [step, finish]

theorem step_finish_error {r : Refreshes ε} {number : Nat} {ticket : Int}
    (waiting : r.call? number = some (.waiting ticket)) (e : ε) :
    r.step message (.finish number (.error e)) =
      ⟨r.store, r.calls.set (number - 1) (.raised e)⟩ := by
  simp only [step, finish, waiting, settled, Store.answer_error]

/-- A refresh answered with data returns what is installed right after, which is its own snapshot
or one with a larger ticket. -/
theorem step_finish_ok {r : Refreshes ε} {number : Nat} {ticket : Int}
    (waiting : r.call? number = some (.waiting ticket)) (data : Data) :
    ∃ snapshot, ticket ≤ snapshot.ticket ∧
      (r.store.place (.build ticket data)).2.installed = some snapshot ∧
      r.step message (.finish number (.ok data)) =
        ⟨(r.store.place (.build ticket data)).2,
          r.calls.set (number - 1) (.returned snapshot)⟩ := by
  have returns (snapshot : Snapshot)
      (here : (r.store.place (.build ticket data)).2.installed = some snapshot) :
      r.step message (.finish number (.ok data)) =
        ⟨(r.store.place (.build ticket data)).2,
          r.calls.set (number - 1) (.returned snapshot)⟩ := by
    simp only [step, finish, waiting, settled, Store.answer_ok, here, Option.map_some]
  rcases r.store.installed_place (.build ticket data) with ⟨here, _⟩ | ⟨current, _, late, here⟩
  · exact ⟨_, Int.le_refl _, here, returns _ here⟩
  · exact ⟨current, late, here, returns _ here⟩

/-- The store holds what the history makes newest, and the same refreshes wait in both. -/
structure Agrees (r : Refreshes ε) (h : History ε) : Prop where
  issued : r.store.issued = h.issued
  length : r.calls.length = h.told.length
  waiting : ∀ (place : Nat) (ticket : Int),
    r.calls[place]? = some (.waiting ticket) ↔ h.told[place]? = some ⟨ticket, none⟩
  absent : r.store.installed = none → ∀ ticket data, ¬ h.Loaded ticket data
  present : ∀ snapshot, r.store.installed = some snapshot →
    ∃ ticket data, h.Newest ticket data ∧ snapshot = .build ticket data

theorem agrees_empty : (empty : Refreshes ε).Agrees ⟨0, []⟩ := by
  refine ⟨rfl, rfl, ?_, ?_, ?_⟩
  · simp [empty]
  · simp [History.Loaded]
  · simp [empty, Store.empty]

theorem Agrees.start {r : Refreshes ε} {h : History ε} (agrees : r.Agrees h) :
    (r.step message .start).Agrees (h.step .start) := by
  have loaded (ticket : Int) (data : Data) :
      (h.step .start).Loaded ticket data ↔ h.Loaded ticket data := by
    simp [History.Loaded]
  refine ⟨?_, ?_, ?_, ?_, ?_⟩
  · simp [step, Refreshes.start, Store.takeTicket, agrees.issued]
  · simp [step, Refreshes.start, Store.takeTicket, agrees.length]
  · intro place ticket
    simp only [step, Refreshes.start, Store.takeTicket, History.step_start,
      List.getElem?_append, agrees.length, agrees.issued]
    split
    · exact agrees.waiting place ticket
    · cases place - h.told.length with
      | zero => simp
      | succ beyond => simp
  · intro nothing ticket data
    rw [loaded]
    exact agrees.absent nothing ticket data
  · intro snapshot here
    simpa only [History.Newest, loaded] using agrees.present snapshot here

theorem Agrees.ticket {r : Refreshes ε} {h : History ε} (agrees : r.Agrees h) :
    (r.step message .ticket).Agrees (h.step .ticket) where
  issued := congrArg (· + 1) agrees.issued
  length := agrees.length
  waiting := agrees.waiting
  absent := agrees.absent
  present := agrees.present

/-- After its answer a refresh waits no more, and the others do as before. -/
theorem Agrees.waiting_set {r : Refreshes ε} {h : History ε} (agrees : r.Agrees h)
    {place : Nat} {ticket : Int} (waiting : r.calls[place]? = some (.waiting ticket))
    {call : Refresh ε} (ended : ∀ ticket, call ≠ .waiting ticket) (answer : Except ε Data)
    (index : Nat) (other : Int) :
    (r.calls.set place call)[index]? = some (.waiting other) ↔
      (h.told.modify place (·.hear answer))[index]? = some ⟨other, none⟩ := by
  by_cases here : place = index
  · subst here
    have told := (agrees.waiting place ticket).mp waiting
    rw [List.getElem?_set_self (List.getElem?_eq_some_iff.mp waiting).1,
      List.getElem?_modify_eq, told]
    simp [ended other, Told.hear]
  · rw [List.getElem?_set_ne here, List.getElem?_modify_ne _ _ here]
    exact agrees.waiting index other

theorem Agrees.finish {r : Refreshes ε} {h : History ε} (agrees : r.Agrees h)
    (place : Nat) (answer : Except ε Data) :
    (r.step message (.finish (place + 1) answer)).Agrees (h.step (.finish (place + 1) answer)) := by
  by_cases waits : ∃ ticket, r.calls[place]? = some (.waiting ticket)
  · obtain ⟨ticket, waiting⟩ := waits
    have called : r.call? (place + 1) = some (.waiting ticket) := waiting
    have told := (agrees.waiting place ticket).mp waiting
    have loaded := History.loaded_hear_iff told answer
    cases answer with
    | error e =>
      rw [step_finish_error message called]
      have unchanged (other : Int) (data : Data) :
          (h.step (.finish (place + 1) (.error e))).Loaded other data ↔ h.Loaded other data := by
        rw [loaded]
        simp
      refine ⟨agrees.issued, ?_, agrees.waiting_set waiting (by simp) _, ?_, ?_⟩
      · simp [agrees.length]
      · intro nothing other data
        rw [unchanged]
        exact agrees.absent nothing other data
      · intro snapshot here
        simpa only [History.Newest, unchanged] using agrees.present snapshot here
    | ok data =>
      obtain ⟨snapshot, _, installed, stepped⟩ :=
        step_finish_ok message called data
      rw [stepped]
      refine ⟨?_, ?_, agrees.waiting_set waiting (by simp) _, ?_, ?_⟩
      · simp [agrees.issued]
      · simp [agrees.length]
      · simp [installed]
      · intro installedNow here
        rcases r.store.installed_place (.build ticket data) with
          ⟨offered, newer⟩ | ⟨current, kept, late, stays⟩
        · obtain rfl := Option.some.inj (offered.symm.trans here)
          refine ⟨ticket, data, ⟨(loaded ticket data).mpr (.inr ⟨rfl, rfl⟩), ?_⟩, rfl⟩
          intro other otherData otherLoaded
          rcases (loaded other otherData).mp otherLoaded with before | ⟨rfl, _⟩
          · cases was : r.store.installed with
            | none => exact absurd before (agrees.absent was other otherData)
            | some current =>
              obtain ⟨_, _, newest, rfl⟩ := agrees.present current was
              exact Int.le_of_lt (Int.lt_of_le_of_lt (newest.2 _ _ before) (newer _ was))
          · exact Int.le_refl _
        · obtain rfl := Option.some.inj (stays.symm.trans here)
          obtain ⟨top, topData, newest, rfl⟩ := agrees.present current kept
          refine ⟨top, topData, ⟨(loaded top topData).mpr (.inl newest.1), ?_⟩, rfl⟩
          intro other otherData otherLoaded
          rcases (loaded other otherData).mp otherLoaded with before | ⟨rfl, _⟩
          · exact newest.2 _ _ before
          · exact late
  · have idle : ∀ ticket, r.call? (place + 1) ≠ some (.waiting ticket) :=
      fun ticket waiting => waits ⟨ticket, waiting⟩
    have answered : ∀ ticket, h.told[place]? ≠ some ⟨ticket, none⟩ :=
      fun ticket told => waits ⟨ticket, (agrees.waiting place ticket).mpr told⟩
    rw [step_finish_idle message answer idle, History.step_finish_succ,
      History.hear_told answered]
    exact agrees

theorem Agrees.step {r : Refreshes ε} {h : History ε} (agrees : r.Agrees h) (action : Action ε) :
    (r.step message action).Agrees (h.step action) := by
  cases action with
  | start => exact agrees.start message
  | ticket => exact agrees.ticket message
  | finish number answer =>
    cases number with
    | zero => exact agrees
    | succ place => exact agrees.finish message place answer

theorem agrees_run (trace : List (Action ε)) : (run message trace).Agrees (.ofTrace trace) := by
  have fold {r : Refreshes ε} {h : History ε} (agrees : r.Agrees h) :
      (trace.foldl (Refreshes.step message) r).Agrees (trace.foldl History.step h) := by
    induction trace generalizing r h with
    | nil => exact agrees
    | cons action rest inductionHypothesis =>
      exact inductionHypothesis (agrees.step message action)
  exact fold agrees_empty

theorem History.ordered_ofTrace (trace : List (Action ε)) : (ofTrace trace).Ordered := by
  have fold {h : History ε} (ordered : h.Ordered) : (trace.foldl step h).Ordered := by
    induction trace generalizing h with
    | nil => exact ordered
    | cons action rest inductionHypothesis =>
      exact inductionHypothesis (ordered.step action)
  exact fold ⟨List.Pairwise.nil, by simp⟩

theorem Agrees.installed_iff {r : Refreshes ε} {h : History ε} (agrees : r.Agrees h)
    (ordered : h.Ordered) (snapshot : Snapshot) :
    r.store.installed = some snapshot ↔
      ∃ ticket data, h.Newest ticket data ∧ snapshot = .build ticket data := by
  constructor
  · exact agrees.present snapshot
  · rintro ⟨ticket, data, newest, rfl⟩
    cases here : r.store.installed with
    | none => exact absurd newest.1 (agrees.absent here ticket data)
    | some current =>
      obtain ⟨top, topData, topNewest, rfl⟩ := agrees.present current here
      obtain ⟨rfl, rfl⟩ := ordered.newest_unique newest topNewest
      rfl

theorem Agrees.not_installed_iff {r : Refreshes ε} {h : History ε} (agrees : r.Agrees h) :
    r.store.installed = none ↔ ∀ ticket data, ¬ h.Loaded ticket data := by
  constructor
  · exact agrees.absent
  · intro nothing
    cases here : r.store.installed with
    | none => rfl
    | some current =>
      obtain ⟨ticket, data, newest, _⟩ := agrees.present current here
      exact absurd newest.1 (nothing ticket data)

theorem Agrees.installed_eq {r other : Refreshes ε} {h otherHistory : History ε}
    (agrees : r.Agrees h) (ordered : h.Ordered)
    (otherAgrees : other.Agrees otherHistory) (otherOrdered : otherHistory.Ordered)
    (same : ∀ ticket data, otherHistory.Loaded ticket data ↔ h.Loaded ticket data) :
    other.store.installed = r.store.installed := by
  refine Option.ext fun snapshot => ?_
  rw [agrees.installed_iff ordered, otherAgrees.installed_iff otherOrdered]
  simp only [History.Newest, same]

theorem History.foldl_finish_perm {answers others : List (Nat × Except ε Data)}
    (permuted : answers.Perm others) (once : (answers.map Prod.fst).Nodup) (h : History ε) :
    (answers.map fun a => Action.finish a.1 a.2).foldl step h =
      (others.map fun a => Action.finish a.1 a.2).foldl step h := by
  rw [List.foldl_map, List.foldl_map]
  refine permuted.foldl_eq' ?_ h
  rintro ⟨number, answer⟩ first ⟨other, otherAnswer⟩ second h
  by_cases same : number = other
  · have equal := List.inj_on_of_nodup_map once first second same
    rw [equal]
  · cases number with
    | zero => rfl
    | succ place =>
      cases other with
      | zero => rfl
      | succ otherPlace =>
        have apart : place ≠ otherPlace := fun equal => same (congrArg (· + 1) equal)
        simp only [step_finish_succ, List.modify_modify_ne _ _ _ apart]

theorem installed_step_le (r : Refreshes ε) (action : Action ε) {snapshot : Snapshot}
    (here : r.store.installed = some snapshot) :
    ∃ later, (r.step message action).store.installed = some later ∧
      snapshot.ticket ≤ later.ticket := by
  cases action with
  | start => exact ⟨snapshot, here, Int.le_refl _⟩
  | ticket => exact ⟨snapshot, here, Int.le_refl _⟩
  | finish number answer =>
    by_cases waits : ∃ ticket, r.call? number = some (.waiting ticket)
    · obtain ⟨ticket, waiting⟩ := waits
      cases answer with
      | error e =>
        rw [step_finish_error message waiting]
        exact ⟨snapshot, here, Int.le_refl _⟩
      | ok data =>
        obtain ⟨later, _, installed, stepped⟩ := step_finish_ok message waiting data
        rw [stepped]
        refine ⟨later, installed, ?_⟩
        rcases r.store.installed_place (.build ticket data) with
          ⟨offered, newer⟩ | ⟨current, kept, _, stays⟩
        · obtain rfl := Option.some.inj (offered.symm.trans installed)
          exact Int.le_of_lt (newer snapshot here)
        · obtain rfl := Option.some.inj (stays.symm.trans installed)
          obtain rfl := Option.some.inj (kept.symm.trans here)
          exact Int.le_refl _
    · rw [step_finish_idle message answer fun ticket waiting => waits ⟨ticket, waiting⟩]
      exact ⟨snapshot, here, Int.le_refl _⟩

theorem installed_foldl_le (r : Refreshes ε) (more : List (Action ε)) {snapshot : Snapshot}
    (here : r.store.installed = some snapshot) :
    ∃ later, (more.foldl (step message) r).store.installed = some later ∧
      snapshot.ticket ≤ later.ticket := by
  induction more generalizing r snapshot with
  | nil => exact ⟨snapshot, here, Int.le_refl _⟩
  | cons action rest inductionHypothesis =>
    obtain ⟨next, nextHere, nextLe⟩ := installed_step_le message r action here
    obtain ⟨later, laterHere, laterLe⟩ := inductionHypothesis _ nextHere
    exact ⟨later, laterHere, Int.le_trans nextLe laterLe⟩

/-- However many refreshes overlap, the store holds what was answered to the one started last of
those answered with data, and nothing before there is one. Tickets of the installed snapshot never
fall, the order of the answers does not show, a refresh that returns gives what is installed by
then, and one that raises changes nothing. -/
theorem run_installs_newest (trace : List (Action ε)) :
    let r := run message trace
    let h := History.ofTrace trace
    (h.told.map Told.ticket).Pairwise (· < ·) ∧
    (∀ place ticket,
      r.call? (place + 1) = some (.waiting ticket) ↔ h.told[place]? = some ⟨ticket, none⟩) ∧
    (∀ snapshot, r.store.installed = some snapshot ↔
      ∃ ticket data, h.Newest ticket data ∧ snapshot = .build ticket data) ∧
    (r.store.installed = none ↔ ∀ ticket data, ¬ h.Loaded ticket data) ∧
    (∀ more snapshot, r.store.installed = some snapshot →
      ∃ later, (run message (trace ++ more)).store.installed = some later ∧
        snapshot.ticket ≤ later.ticket) ∧
    (∀ other : List (Action ε),
      (∀ ticket data, (History.ofTrace other).Loaded ticket data ↔ h.Loaded ticket data) →
        (run message other).store.installed = r.store.installed) ∧
    (∀ answers others : List (Nat × Except ε Data),
      answers.Perm others → (answers.map Prod.fst).Nodup →
        (run message (trace ++ answers.map fun a => .finish a.1 a.2)).store.installed =
          (run message (trace ++ others.map fun a => .finish a.1 a.2)).store.installed) ∧
    (∀ number ticket data, r.call? number = some (.waiting ticket) →
      let after := r.step message (.finish number (.ok data))
      ∃ snapshot, after.call? number = some (.returned snapshot) ∧
        after.store.installed = some snapshot ∧ after.store.current = .ok snapshot ∧
        ticket ≤ snapshot.ticket) ∧
    (∀ number ticket e, r.call? number = some (.waiting ticket) →
      let after := r.step message (.finish number (.error e))
      after.call? number = some (.raised e) ∧ after.store = r.store) := by
  intro r h
  have agrees : r.Agrees h := agrees_run message trace
  have ordered : h.Ordered := History.ordered_ofTrace trace
  refine ⟨ordered.rising, agrees.waiting, agrees.installed_iff ordered,
    agrees.not_installed_iff, ?_, ?_, ?_, ?_, ?_⟩
  · intro more snapshot here
    rw [run_append]
    exact installed_foldl_le message r more here
  · intro other same
    exact agrees.installed_eq ordered (agrees_run message other)
      (History.ordered_ofTrace other) same
  · intro answers others permuted once
    have histories := History.foldl_finish_perm permuted once h
    refine (agrees_run message _).installed_eq (History.ordered_ofTrace _)
      (agrees_run message _) (History.ordered_ofTrace _) fun ticket data => ?_
    rw [History.ofTrace_append, History.ofTrace_append, histories]
  · intro number ticket data waiting after
    obtain ⟨snapshot, ticketLe, installed, stepped⟩ := step_finish_ok message waiting data
    have here : after.store.installed = some snapshot := by
      simp only [after, stepped, installed]
    refine ⟨snapshot, ?_, here, ?_, ticketLe⟩
    · simp only [after, stepped]
      exact call?_set waiting _ _
    · simp only [Store.current, here]
  · intro number ticket e waiting after
    have stepped := step_finish_error message waiting e
    refine ⟨?_, by simp only [after, stepped]⟩
    simp only [after, stepped]
    exact call?_set waiting _ _

/-- Two refreshes overlap and the first one is answered last: the second one's answer stays, and
the first refresh returns it too. -/
theorem late_answer_is_discarded :
    let first : Data := .empty
    let second : Data := { Data.empty with categories := [⟨1, "Bathroom", none, none⟩] }
    let trace : List (Action String) := [.start, .start, .finish 2 (.ok second)]
    let late : Action String := .finish 1 (.ok first)
    (run id (trace ++ [late])).store.installed = some (.build 2 second) ∧
      ((run id trace).step id late).call? 1 = some (.returned (.build 2 second)) := by
  intro first second trace late
  obtain ⟨_, _, _, _, _, _, _, returns, _⟩ := run_installs_newest id trace
  obtain ⟨snapshot, returned, installed, _⟩ := returns 1 1 first rfl
  have stays : (run id (trace ++ [late])).store.installed = some (.build 2 second) := by
    refine ((run_installs_newest id (trace ++ [late])).2.2.1 _).mpr ⟨2, second, ⟨?_, ?_⟩, rfl⟩
    · exact .tail _ (.head _)
    · intro other otherData loaded
      rcases loaded with _ | ⟨_, _ | ⟨_, ⟨⟩⟩⟩ <;> decide
  rw [run_append] at stays
  obtain rfl := Option.some.inj (installed.symm.trans stays)
  exact ⟨by rw [run_append]; exact installed, returned⟩

end Refreshes

end Fitout.Catalog
