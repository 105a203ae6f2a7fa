import Fitout.Proofs.Catalog.Newest
import Fitout.Proofs.Source.Course
import Fitout.Source.Overlap

/-!
# Overlapping refreshes

What each step of overlapping refreshes does is said once. The refreshes have their tickets in the
order of their starts, and what is installed was loaded by the refresh whose ticket it bears. A
refresh that runs alone is a load.
-/

namespace Fitout

namespace Fetch

variable {kind : Catalog.Kind}

/-- Settling makes a list of missing coefficients, and touches no other fetch. -/
theorem of_settled_eq_ok {f : Fetch} {body : Json}
    (settled : (f.settled kind).1 = ended (.ok body)) :
    f = ended (.ok body) ∨ kind = .coefficients ∧ body = .list [] := by
  cases f with
  | ended result =>
    cases result with
    | ok other =>
      rw [settled_ok] at settled
      exact .inl settled
    | error e =>
      cases kind with
      | coefficients =>
        simp only [Fetch.settled, Source.settle] at settled
        split at settled
        · exact .inr ⟨rfl, (Except.ok.inj (Fetch.ended.inj settled)).symm⟩
        · cases settled
      | _ => cases settled
  | _ => cases settled

theorem of_settled_eq_answered {f : Fetch} {body : Json}
    (settled : (f.settled kind).1 = answered body) : f = answered body := by
  cases f with
  | ended result => cases settled
  | _ => exact settled

end Fetch

namespace Source

variable {s : Source} {now : Float} {force : Bool} {kind : Catalog.Kind}

/-- A list that a lookup gives is one that the cache holds. -/
theorem exists_stored_of_lookup {body : Json}
    (found : (s.lookup force kind).fetch = .ended (.ok body)) :
    (force = false ∧ s.isConnected = true) ∧
      ∃ stored, s.stored? kind = some stored ∧ stored.body? = .ok (some body) := by
  obtain ⟨read, consulted, fetch⟩ := s.consulted_lookup force kind
  rw [found] at fetch
  have read_eq : read = .ok (some body) := by
    match read, fetch with
    | .ok (some other), fetch =>
      rw [afterLookup] at fetch
      rw [Except.ok.inj (Fetch.ended.inj fetch)]
  rw [read_eq] at consulted
  generalize given : (Except.ok (some body) : Except MessagePack.DecodeError _) = read,
    (s.lookup force kind).events = events at consulted
  cases consulted with
  | skipped | refused | absent => cases given
  | held on _ held => exact ⟨on, _, held, rfl⟩

/-- What an answer makes of a fetch. -/
theorem fetch_receive (s : Source) (now : Float) (kind : Catalog.Kind) :
    (∃ e, (s.receive now kind).fetch = .ended (.error (.request e))) ∨
      ∃ body, (s.client.exchange now (.ofKind kind)).result = .ok body ∧
        ((s.receive now kind).fetch = .ended (.ok body) ∨
          (s.receive now kind).fetch = .answered body ∧ body ≠ .null) := by
  cases result : (s.client.exchange now (.ofKind kind)).result with
  | error e => exact .inl ⟨e, by simp only [receive, result]⟩
  | ok body =>
    refine .inr ⟨body, rfl, ?_⟩
    by_cases null : body = .null
    · subst null
      exact .inl (by simp only [receive, result])
    · cases cache : s.cache with
      | none => exact .inl (by simp only [receive, result, cache])
      | some cache => exact .inr ⟨by simp only [receive, result, cache], null⟩

theorem fetch_lookup_ne_answered {body : Json} :
    (s.lookup force kind).fetch ≠ .answered body := by
  obtain ⟨read, _, fetch⟩ := s.consulted_lookup force kind
  rw [fetch]
  match read with
  | .error e | .ok none | .ok (some other) => exact fun same => nomatch same

theorem fetch_ask (s : Source) (now : Float) (kind : Catalog.Kind) :
    (s.ask now kind).fetch = .asked ∨ ∃ e, (s.ask now kind).fetch = .ended (.error e) := by
  simp only [ask]
  split
  · exact .inl rfl
  · exact .inr ⟨_, rfl⟩

theorem fetch_keep (s : Source) (kind : Catalog.Kind) (body : Json) :
    (s.keep kind body).fetch = .ended (.ok body) ∨
      ∃ e, (s.keep kind body).fetch = .ended (.error e) := by
  unfold keep
  split
  · exact .inl rfl
  · dsimp only
    split
    · exact .inl rfl
    · exact .inr ⟨_, rfl⟩

/-- A body that is still to be cached was just answered. -/
theorem answered_of_advance {f : Fetch} {body : Json} (open_ : f.result? = none)
    (next : ((s.advance now force kind f).fetch.settled kind).1 = .answered body) :
    f = .asked ∧ (s.client.exchange now (.ofKind kind)).result = .ok body ∧ body ≠ .null := by
  replace next := Fetch.of_settled_eq_answered next
  cases f with
  | begun => exact absurd next fetch_lookup_ne_answered
  | uncached =>
    obtain asked | ⟨e, ended⟩ := s.fetch_ask now kind
    · cases asked.symm.trans next
    · cases ended.symm.trans next
  | asked =>
    obtain ⟨e, ended⟩ | ⟨other, given, ended | ⟨answered, there⟩⟩ := s.fetch_receive now kind
    · cases ended.symm.trans next
    · cases ended.symm.trans next
    · obtain rfl := Fetch.answered.inj (answered.symm.trans next)
      exact ⟨rfl, given, there⟩
  | answered other =>
    obtain ended | ⟨e, ended⟩ := s.fetch_keep kind other
    · cases ended.symm.trans next
    · cases ended.symm.trans next
  | ended result => cases open_

/-- Where a list comes from with which a fetch ends. -/
theorem ended_of_advance {f : Fetch} {body : Json} (open_ : f.result? = none)
    (next : ((s.advance now force kind f).fetch.settled kind).1 = .ended (.ok body)) :
    (f = .begun ∧ (s.lookup force kind).fetch = .ended (.ok body)) ∨
      (f = .asked ∧ (s.client.exchange now (.ofKind kind)).result = .ok body) ∨
      f = .answered body ∨ kind = .coefficients ∧ body = .list [] := by
  obtain next | missing := Fetch.of_settled_eq_ok next
  · cases f with
    | begun => exact .inl ⟨rfl, next⟩
    | uncached =>
      obtain asked | ⟨e, ended⟩ := s.fetch_ask now kind
      · cases asked.symm.trans next
      · cases ended.symm.trans next
    | asked =>
      obtain ⟨e, ended⟩ | ⟨other, given, ended | ⟨answered, _⟩⟩ := s.fetch_receive now kind
      · cases ended.symm.trans next
      · obtain rfl := Except.ok.inj (Fetch.ended.inj (ended.symm.trans next))
        exact .inr (.inl ⟨rfl, given⟩)
      · cases answered.symm.trans next
    | answered other =>
      obtain ended | ⟨e, ended⟩ := s.fetch_keep kind other
      · obtain rfl := Except.ok.inj (Fetch.ended.inj (ended.symm.trans next))
        exact .inr (.inr (.inl rfl))
      · cases ended.symm.trans next
    | ended result => cases open_
  · exact .inr (.inr (.inr missing))

/-- What the cache holds after a step it held before, or it was just stored. -/
theorem stored_of_advance {f : Fetch} {other : Catalog.Kind} {stored : Stored}
    (there : ∀ body, f = .answered body → body ≠ .null)
    (held : (s.advance now force kind f).source.stored? other = some stored) :
    s.stored? other = some stored ∨
      other = kind ∧ ∃ body, f = .answered body ∧
        MessagePack.encode s.nesting body = .ok stored.bytes := by
  by_cases same : other = kind
  · subst same
    cases f with
    | begun =>
      have kept : (s.lookup force other).source.stored? other = s.stored? other :=
        stored?_lookup other
      exact .inl (kept.symm.trans held)
    | uncached | asked | ended result => exact .inl held
    | answered body =>
      obtain ⟨-, kept⟩ | ⟨e, -, -, -, unchanged⟩ := s.kept_keep other (there body rfl)
      · change (s.keep other body).source.stored? other = some stored at held
        rw [held] at kept
        generalize now_held : some stored = now at kept
        cases kept with
        | skipped | refused => exact .inl rfl
        | stored _ packed =>
          obtain rfl := Option.some.inj now_held
          exact .inr ⟨rfl, body, rfl, packed⟩
      · exact .inl (unchanged.symm.trans held)
  · rw [stored?_advance_of_ne same] at held
    exact .inl held

end Source

namespace Overlap

open Catalog

variable {c : Overlap}

theorem run_append (actions more : List Action) :
    c.run (actions ++ more) = (c.run actions).run more :=
  List.foldl_append

/-- The state after a step of a fetch that has not ended. -/
def taken (c : Overlap) (place : Nat) (load : Loading) (turn : Turn) : Overlap :=
  let next := c.source.advance turn.now load.force turn.kind (load.fetches turn.kind)
  { c with
    source := next.source
    loads := c.loads.set place (load.takeUp ((load.gathering c.source).put turn.kind next)) }

/-- All that an action can do. -/
inductive Effect (c : Overlap) : Action → Overlap → Prop where
  | idle (action : Action) : Effect c action c
  | started (force : Bool) :
      Effect c (.start force)
        { c with refreshes := c.refreshes.start, loads := c.loads ++ [.start force] }
  | forgot {place : Nat} {load : Loading} (there : c.loads[place]? = some load)
      (still : load.isForgetting = true) :
      Effect c (.forget place)
        { c with
          source := (c.source.forget load.force).1
          loads := c.loads.set place { load with isForgetting := false } }
  | turned {place : Nat} {load : Loading} {turn : Turn} (there : c.loads[place]? = some load)
      (ready : load.isForgetting = false) (open_ : (load.fetches turn.kind).result? = none) :
      Effect c (.turn place turn) (c.taken place load turn)
  | finished {place : Nat} {load : Loading} {ticket : Int}
      {outcome : Except LoadError (Catalog.Lists Json)} (there : c.loads[place]? = some load)
      (waiting : c.refreshes.call? (place + 1) = some (.waiting ticket))
      (ended : (load.gathering c.source).outcome? = some outcome) :
      Effect c (.finish place)
        { c with
          refreshes :=
            (c.refreshes.finish LoadError.message (place + 1) (outcome.map Catalog.Lists.data)).1 }
  | expired (kind : Kind) : Effect c (.expire kind) (c.expire kind)

theorem fetching?_eq_some_iff {place : Nat} {load : Loading} :
    c.fetching? place = some load ↔ c.loads[place]? = some load ∧ load.isForgetting = false := by
  simp [fetching?, Option.filter_eq_some_iff]

theorem effect_turn (c : Overlap) (place : Nat) (turn : Turn) :
    c.Effect (.turn place turn) (c.turn place turn).1 := by
  unfold Overlap.turn
  split
  · rename_i load fetching
    obtain ⟨there, ready⟩ := fetching?_eq_some_iff.mp fetching
    cases open_ : (load.fetches turn.kind).result? with
    | none =>
      rw [Gathering.step_open open_]
      exact .turned there ready open_
    | some result =>
      rw [Gathering.step_ended (Option.isSome_of_eq_some open_)]
      obtain ⟨bound, same⟩ := List.getElem?_eq_some_iff.mp there
      have kept : c.loads.set place (load.takeUp (load.gathering c.source)) = c.loads := by
        rw [← same]
        exact List.set_getElem_self bound
      simp only [kept]
      exact .idle _
  · exact .idle _

theorem effect_step (c : Overlap) (action : Action) : c.Effect action (c.step action) := by
  cases action with
  | start force => exact .started force
  | forget place =>
    simp only [step, act, forget]
    split
    · rename_i load there
      split
      · rename_i still
        exact .forgot there still
      · exact .idle _
    · exact .idle _
  | turn place turn => exact c.effect_turn place turn
  | finish place =>
    simp only [step, act, finish]
    split
    · rename_i outcome known
      unfold outcome? at known
      split at known
      · rename_i ticket load waiting there
        exact .finished there waiting known
      · cases known
    · exact .idle _
  | expire kind => exact .expired kind

/-- The load at a place has ended with these lists. -/
def Loaded (c : Overlap) (place : Nat) (lists : Catalog.Lists Json) : Prop :=
  ∃ load, c.loads[place]? = some load ∧ ∀ kind, load.fetches kind = .ended (.ok (lists kind))

/-- What ended stays as it is. -/
theorem fetches_takeUp_of_ended {load : Loading} {turn : Turn} {next : Fetch.Step} {kind : Kind}
    {result : Except LoadError Json} (open_ : (load.fetches turn.kind).result? = none)
    (ended : load.fetches kind = .ended result) :
    (load.takeUp ((load.gathering c.source).put turn.kind next)).fetches kind = .ended result := by
  have other : kind ≠ turn.kind := by
    rintro rfl
    rw [ended] at open_
    cases open_
  exact (Gathering.fetches_put_of_ne other next).trans ended

theorem Loaded.step {place : Nat} {lists : Catalog.Lists Json} (loaded : c.Loaded place lists)
    (action : Action) : (c.step action).Loaded place lists := by
  obtain ⟨load, there, ended⟩ := loaded
  have effect := c.effect_step action
  generalize c.step action = d at effect
  cases effect with
  | idle | finished | expired => exact ⟨load, there, ended⟩
  | started force =>
    exact ⟨load, List.getElem?_append_left (List.getElem?_eq_some_iff.mp there).1 ▸ there, ended⟩
  | @forgot other forgetting found =>
    by_cases same : other = place
    · subst same
      obtain rfl := Option.some.inj (found.symm.trans there)
      exact ⟨_, List.getElem?_set_self (List.getElem?_eq_some_iff.mp there).1, ended⟩
    · exact ⟨load, (List.getElem?_set_ne same).trans there, ended⟩
  | @turned other turning turn found ready open_ =>
    by_cases same : other = place
    · subst same
      obtain rfl := Option.some.inj (found.symm.trans there)
      exact ⟨_, List.getElem?_set_self (List.getElem?_eq_some_iff.mp there).1,
        fun kind => fetches_takeUp_of_ended open_ (ended kind)⟩
    · exact ⟨load, (List.getElem?_set_ne same).trans there, ended⟩

/-- The tickets are the places of the refreshes, and what is installed was loaded. -/
structure Ticketed (c : Overlap) : Prop where
  length : c.refreshes.calls.length = c.loads.length
  issued : c.refreshes.store.issued = c.loads.length
  waiting : ∀ (place : Nat) (ticket : Int),
    c.refreshes.calls[place]? = some (.waiting ticket) → ticket = place + 1
  installed : ∀ snapshot, c.refreshes.store.installed = some snapshot →
    ∃ (place : Nat) (lists : Catalog.Lists Json),
      c.Loaded place lists ∧ snapshot = .build (place + 1) lists.data
  returned : ∀ (place : Nat) (earlier : Snapshot),
    c.refreshes.calls[place]? = some (.returned earlier) →
      ∃ snapshot, c.refreshes.store.installed = some snapshot ∧ place + 1 ≤ snapshot.ticket

theorem ticketed_begin (s : Source) : (begin s).Ticketed where
  length := rfl
  issued := rfl
  waiting place ticket waiting := by cases waiting
  installed snapshot installed := by cases installed
  returned place earlier returned := by cases returned

theorem Ticketed.started (ticketed : c.Ticketed) (force : Bool) :
    (c.step (.start force)).Ticketed := by
  have told {place : Nat} {call : Refresh LoadError}
      (there : (c.refreshes.calls ++ [.waiting (c.refreshes.store.issued + 1)])[place]? =
        some call) :
      c.refreshes.calls[place]? = some call ∨
        place = c.loads.length ∧ call = .waiting (place + 1) := by
    rw [List.getElem?_append] at there
    split at there
    · exact .inl there
    · rename_i beyond
      obtain ⟨bound, same⟩ := List.getElem?_eq_some_iff.mp there
      have last : place = c.loads.length := by
        rw [← ticketed.length]
        simp at bound
        omega
      refine .inr ⟨last, ?_⟩
      rw [last, ← ticketed.issued, ← same]
      simp
  refine ⟨?_, ?_, ?_, ?_, ?_⟩
  · simp [step, act, Refreshes.start, ticketed.length]
  · simp [step, act, Refreshes.start, Store.takeTicket, ticketed.issued]
  · intro place ticket waiting
    obtain waiting | ⟨-, same⟩ := told waiting
    · exact ticketed.waiting place ticket waiting
    · exact Refresh.waiting.inj same
  · intro snapshot installed
    obtain ⟨place, lists, loaded, built⟩ := ticketed.installed snapshot installed
    exact ⟨place, lists, loaded.step (.start force), built⟩
  · intro place earlier returned
    obtain returned | ⟨-, same⟩ := told returned
    · exact ticketed.returned place earlier returned
    · cases same

/-- A step that leaves the refreshes alone. -/
theorem Ticketed.of_refreshes_eq {d : Overlap} (ticketed : c.Ticketed)
    (refreshes : d.refreshes = c.refreshes) (length : d.loads.length = c.loads.length)
    (loaded : ∀ place lists, c.Loaded place lists → d.Loaded place lists) : d.Ticketed := by
  refine ⟨?_, ?_, ?_, ?_, ?_⟩
  · rw [refreshes, length, ticketed.length]
  · rw [refreshes, length, ticketed.issued]
  · rw [refreshes]
    exact ticketed.waiting
  · rw [refreshes]
    intro snapshot installed
    obtain ⟨place, lists, before, built⟩ := ticketed.installed snapshot installed
    exact ⟨place, lists, loaded place lists before, built⟩
  · rw [refreshes]
    exact ticketed.returned

theorem of_getElem?_set {α : Type} {l : List α} {place index : Nat} {new found : α}
    (there : (l.set place new)[index]? = some found) :
    index = place ∧ found = new ∨ l[index]? = some found := by
  by_cases same : place = index
  · subst same
    have bound : place < (l.set place new).length := (List.getElem?_eq_some_iff.mp there).1
    rw [List.getElem?_set_self (by simpa using bound)] at there
    exact .inl ⟨rfl, (Option.some.inj there).symm⟩
  · rw [List.getElem?_set_ne same] at there
    exact .inr there

/-- A refresh that gets its lists installs them, unless what is installed bears a later ticket. -/
theorem Ticketed.finished_ok (ticketed : c.Ticketed) {place : Nat} {ticket : Int}
    {lists : Catalog.Lists Json} (loaded : c.Loaded place lists)
    (waiting : c.refreshes.calls[place]? = some (.waiting ticket)) {snapshot : Snapshot}
    (late : ticket ≤ snapshot.ticket)
    (here : (c.refreshes.store.place (.build ticket lists.data)).2.installed = some snapshot) :
    ({ c with
      refreshes := ⟨(c.refreshes.store.place (.build ticket lists.data)).2,
        c.refreshes.calls.set place (.returned snapshot)⟩ } : Overlap).Ticketed := by
  obtain rfl := ticketed.waiting place ticket waiting
  have placed := c.refreshes.store.installed_place (.build (place + 1) lists.data)
  refine ⟨?_, ?_, ?_, ?_, ?_⟩
  · rw [List.length_set, ticketed.length]
  · rw [Store.issued_place, ticketed.issued]
  · intro index other stillWaiting
    obtain ⟨-, same⟩ | before := of_getElem?_set stillWaiting
    · cases same
    · exact ticketed.waiting index other before
  · intro installed installedHere
    obtain ⟨offered, -⟩ | ⟨current, kept, -, stays⟩ := placed
    · exact ⟨place, lists, loaded, (Option.some.inj (offered.symm.trans installedHere)).symm⟩
    · obtain rfl := Option.some.inj (stays.symm.trans installedHere)
      exact ticketed.installed current kept
  · intro index earlier returned
    refine ⟨snapshot, here, ?_⟩
    obtain ⟨rfl, -⟩ | before := of_getElem?_set returned
    · exact late
    · obtain ⟨old, oldHere, oldLate⟩ := ticketed.returned index earlier before
      obtain ⟨offered, newer⟩ | ⟨current, kept, -, stays⟩ := placed
      · obtain rfl := Option.some.inj (offered.symm.trans here)
        exact Int.le_trans oldLate (Int.le_of_lt (newer old oldHere))
      · obtain rfl := Option.some.inj (stays.symm.trans here)
        obtain rfl := Option.some.inj (kept.symm.trans oldHere)
        exact oldLate

theorem Ticketed.finished (ticketed : c.Ticketed) {place : Nat} {load : Loading} {ticket : Int}
    {outcome : Except LoadError (Catalog.Lists Json)} (there : c.loads[place]? = some load)
    (waiting : c.refreshes.call? (place + 1) = some (.waiting ticket))
    (ended : (load.gathering c.source).outcome? = some outcome) :
    ({ c with
      refreshes :=
        (c.refreshes.finish LoadError.message (place + 1) (outcome.map Catalog.Lists.data)).1 } :
      Overlap).Ticketed := by
  cases outcome with
  | ok lists =>
    have loaded : c.Loaded place lists :=
      ⟨load, there, (Gathering.outcome?_eq_ok_iff.mp ended).2⟩
    obtain ⟨snapshot, late, here, finished⟩ :=
      Refreshes.step_finish_ok LoadError.message waiting lists.data
    change ({ c with
      refreshes := c.refreshes.step LoadError.message (.finish (place + 1) (.ok lists.data)) } :
      Overlap).Ticketed
    rw [finished]
    exact ticketed.finished_ok loaded waiting late here
  | error e =>
    have finished := Refreshes.step_finish_error LoadError.message waiting e
    change ({ c with
      refreshes := c.refreshes.step LoadError.message (.finish (place + 1) (.error e)) } :
      Overlap).Ticketed
    rw [finished]
    refine ⟨?_, ticketed.issued, ?_, ticketed.installed, ?_⟩
    · exact (List.length_set ..).trans ticketed.length
    · intro index other stillWaiting
      obtain ⟨-, same⟩ | before := of_getElem?_set stillWaiting
      · cases same
      · exact ticketed.waiting index other before
    · intro index earlier returned
      obtain ⟨-, same⟩ | before := of_getElem?_set returned
      · cases same
      · exact ticketed.returned index earlier before

theorem Ticketed.step (ticketed : c.Ticketed) (action : Action) : (c.step action).Ticketed := by
  have loaded (place : Nat) (lists : Catalog.Lists Json) (before : c.Loaded place lists) :
      (c.step action).Loaded place lists := before.step action
  have effect := c.effect_step action
  generalize c.step action = d at effect loaded
  cases effect with
  | idle => exact ticketed
  | started force => exact ticketed.started force
  | forgot | turned => exact ticketed.of_refreshes_eq rfl (List.length_set ..) loaded
  | expired => exact ticketed.of_refreshes_eq rfl rfl loaded
  | finished there waiting ended => exact ticketed.finished there waiting ended

theorem Ticketed.run (ticketed : c.Ticketed) (actions : List Action) :
    (c.run actions).Ticketed := by
  induction actions generalizing c with
  | nil => exact ticketed
  | cons action rest inductionHypothesis => exact inductionHypothesis (ticketed.step action)

end Overlap

namespace Gathering

variable {force : Bool} {g h : Gathering}

/-- The two differ at most in what they have reported. -/
structure Alike (g h : Gathering) : Prop where
  source : g.source = h.source
  fetches : g.fetches = h.fetches
  failure : g.failure = h.failure

theorem Alike.step (alike : g.Alike h) (turn : Turn) :
    (g.step force turn).Alike (h.step force turn) := by
  obtain ⟨source, fetches, failure, events⟩ := g
  obtain ⟨_, _, _, others⟩ := h
  obtain ⟨rfl, rfl, rfl⟩ := alike
  unfold Gathering.step
  dsimp only
  split <;> exact ⟨rfl, rfl, rfl⟩

theorem Alike.run (alike : g.Alike h) (turns : List Turn) :
    (g.run force turns).Alike (h.run force turns) := by
  induction turns generalizing g h with
  | nil => exact alike
  | cons turn rest inductionHypothesis => exact inductionHypothesis (alike.step turn)

end Gathering

/-- Where all fetches of a load ended with lists, the load gives them. -/
theorem Gathering.outcome?_run_of_ended {s : Source} {force : Bool} {turns : List Turn}
    {lists : Catalog.Lists Json}
    (ended : ∀ kind, ((Gathering.start s).run force turns).fetches kind =
      .ended (.ok (lists kind))) :
    ((Gathering.start s).run force turns).outcome? = some (.ok lists) := by
  have noted : ((Gathering.start s).run force turns).Noted := noted_run (noted_start s) turns
  refine outcome?_eq_ok_iff.mpr ⟨?_, ended⟩
  cases failure : ((Gathering.start s).run force turns).failure with
  | none => rfl
  | some e =>
    obtain ⟨kind, failed⟩ := noted.ended e failure
    cases (ended kind).symm.trans failed

theorem Loading.takeUp_takeUp {load : Loading} {g h k : Gathering} (alike : h.Alike k) :
    (load.takeUp g).takeUp h = load.takeUp k := by
  simp only [takeUp, alike.fetches, alike.failure]

namespace Overlap

open Catalog

/-- Turns of one load in a row are those of a load that has the source to itself. -/
theorem run_turns {c : Overlap} {place : Nat} {load : Loading}
    (there : c.loads[place]? = some load) (ready : load.isForgetting = false)
    (turns : List Turn) :
    let g := (load.gathering c.source).run load.force turns
    c.run (turns.map (.turn place)) =
      { c with source := g.source, loads := c.loads.set place (load.takeUp g) } := by
  induction turns generalizing c load with
  | nil =>
    obtain ⟨bound, same⟩ := List.getElem?_eq_some_iff.mp there
    have kept : c.loads.set place load = c.loads := by
      rw [← same]
      exact List.set_getElem_self bound
    exact (congrArg (Overlap.mk c.source c.refreshes) kept).symm
  | cons turn rest inductionHypothesis =>
    let g := (load.gathering c.source).step load.force turn
    have first : c.step (.turn place turn) =
        { c with source := g.source, loads := c.loads.set place (load.takeUp g) } := by
      simp only [step, act, Overlap.turn, fetching?_eq_some_iff.mpr ⟨there, ready⟩, g]
    have found : (c.step (.turn place turn)).loads[place]? = some (load.takeUp g) := by
      rw [first]
      exact List.getElem?_set_self (List.getElem?_eq_some_iff.mp there).1
    have later := inductionHypothesis found ready
    have alike : ((load.takeUp g).gathering g.source).Alike g := ⟨rfl, rfl, rfl⟩
    have last : (((load.takeUp g).gathering g.source).run load.force rest).Alike
        (g.run load.force rest) := alike.run rest
    rw [first] at later
    change (c.step (.turn place turn)).run (rest.map (.turn place)) = _
    rw [first, later]
    change Overlap.mk (((load.takeUp g).gathering g.source).run load.force rest).source
      c.refreshes ((c.loads.set place (load.takeUp g)).set place ((load.takeUp g).takeUp
        (((load.takeUp g).gathering g.source).run load.force rest))) = _
    rw [List.set_set, Loading.takeUp_takeUp last, last.source]
    rfl

/-- A whole refresh, of which no other comes between the steps. -/
def inARow (place : Nat) (force : Bool) (turns : List Turn) : List Action :=
  .start force :: .forget place :: turns.map (.turn place) ++ [.finish place]

theorem step_finish {c : Overlap} {place : Nat} {load : Loading} {ticket : Int}
    {outcome : Except LoadError (Catalog.Lists Json)} (there : c.loads[place]? = some load)
    (waiting : c.refreshes.call? (place + 1) = some (.waiting ticket))
    (ended : (load.gathering c.source).outcome? = some outcome) :
    c.step (.finish place) =
      { c with
        refreshes := (c.refreshes.finish LoadError.message (place + 1)
          (outcome.map Catalog.Lists.data)).1 } := by
  have known : c.outcome? place = some outcome := by
    simp only [outcome?, waiting, there]
    exact ended
  simp only [step, act, finish, known]

/-- After it started and dropped the cache if it is to, a refresh is about to fetch its lists. -/
theorem run_start_forget (c : Overlap) (force : Bool) :
    c.run [.start force, .forget c.loads.length] =
      ⟨(c.source.forget force).1, c.refreshes.start,
        c.loads ++ [⟨force, false, fun _ => .begun, none⟩]⟩ := by
  change (Overlap.forget ⟨c.source, c.refreshes.start, c.loads ++ [.start force]⟩
    c.loads.length).1 = _
  cases force with
  | true => simp [Overlap.forget, Loading.start]
  | false => simp [Overlap.forget, Loading.start, Source.forget_unforced]

theorem Ticketed.call?_start {c : Overlap} (ticketed : c.Ticketed) :
    c.refreshes.start.call? (c.loads.length + 1) = some (.waiting (c.loads.length + 1)) := by
  have last : c.refreshes.start.calls[c.refreshes.calls.length]? =
      some (.waiting (c.refreshes.store.issued + 1)) := List.getElem?_concat_length
  rw [ticketed.length, ticketed.issued] at last
  exact last

/-- A whole refresh does what its load does, and is answered with what that comes to. -/
theorem run_inARow {c : Overlap} (ticketed : c.Ticketed) {force : Bool} {turns : List Turn}
    {outcome : Except LoadError (Catalog.Lists Json)} :
    let g := (Gathering.start (c.source.forget force).1).run force turns
    g.outcome? = some outcome →
      c.run (inARow c.loads.length force turns) =
        ⟨g.source,
          (c.refreshes.start.finish LoadError.message (c.loads.length + 1)
            (outcome.map Catalog.Lists.data)).1,
          c.loads ++ [⟨force, false, g.fetches, g.failure⟩]⟩ := by
  intro g ended
  let load : Loading := ⟨force, false, fun _ => .begun, none⟩
  have there : (c.loads ++ [load])[c.loads.length]? = some load := List.getElem?_concat_length
  let begun : Overlap := ⟨(c.source.forget force).1, c.refreshes.start, c.loads ++ [load]⟩
  have turned : begun.run (turns.map (.turn c.loads.length)) =
      ⟨g.source, c.refreshes.start, c.loads ++ [load.takeUp g]⟩ := by
    have whole := run_turns (c := begun) there rfl turns
    rw [whole]
    change Overlap.mk g.source c.refreshes.start
      ((c.loads ++ [load]).set c.loads.length (load.takeUp g)) = _
    rw [List.set_append_right _ _ (Nat.le_refl _), Nat.sub_self]
    rfl
  have last : (c.loads ++ [load.takeUp g])[c.loads.length]? = some (load.takeUp g) :=
    List.getElem?_concat_length
  change c.run ([.start force, .forget c.loads.length] ++ turns.map (.turn c.loads.length) ++
    [.finish c.loads.length]) = _
  rw [run_append, run_append, run_start_forget, turned]
  exact step_finish last ticketed.call?_start ended

/-- A whole refresh that gets its lists installs them, since no ticket is later. -/
theorem installed_inARow {c : Overlap} (ticketed : c.Ticketed) {force : Bool} {turns : List Turn}
    {lists : Catalog.Lists Json}
    (ended : ((Gathering.start (c.source.forget force).1).run force turns).outcome? =
      some (.ok lists)) :
    let snapshot := Snapshot.build (c.loads.length + 1) lists.data
    (c.run (inARow c.loads.length force turns)).refreshes.store.installed = some snapshot ∧
      (c.run (inARow c.loads.length force turns)).refreshes.call? (c.loads.length + 1) =
        some (.returned snapshot) := by
  intro snapshot
  obtain ⟨now, -, here, finished⟩ :=
    Refreshes.step_finish_ok LoadError.message ticketed.call?_start lists.data
  have installed : now = snapshot := by
    obtain ⟨offered, -⟩ | ⟨current, kept, late, -⟩ :=
      c.refreshes.start.store.installed_place snapshot
    · exact Option.some.inj (here.symm.trans offered)
    · obtain ⟨place, other, ⟨load, there, -⟩, rfl⟩ := ticketed.installed current kept
      have bound := (List.getElem?_eq_some_iff.mp there).1
      change (c.loads.length : Int) + 1 ≤ place + 1 at late
      omega
  subst installed
  have refreshes : (c.run (inARow c.loads.length force turns)).refreshes = _ :=
    (congrArg Overlap.refreshes (run_inARow ticketed ended)).trans finished
  rw [refreshes]
  exact ⟨here, Refreshes.call?_set ticketed.call?_start _ _⟩

/-- A refresh that runs alone is a load, whose result it gets. -/
theorem run_alone (s : Source) {force : Bool} {turns : List Turn} {loaded : Source.Step Data}
    (ended : s.loadBy force turns = some loaded) :
    let c := (begin s).run (inARow 0 force turns)
    c.source = loaded.source ∧
      c.refreshes = (Refreshes.empty.start.finish LoadError.message 1 loaded.result).1 := by
  intro c
  obtain ⟨outcome, known, rfl⟩ := Option.map_eq_some_iff.mp ended
  have whole : c = _ := run_inARow (ticketed_begin s) known
  rw [whole]
  cases outcome <;> exact ⟨rfl, rfl⟩

end Overlap

end Fitout
