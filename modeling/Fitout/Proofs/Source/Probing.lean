import Fitout.Proofs.Breaker.Recovery
import Fitout.Proofs.Source.Fallback

/-!
# Loads through a breaker that probes

The five fetches of a load go through one breaker. Where its circuit is open and the recovery time
has passed, they are its probes until the first of them is answered. A fetch that asks when all
slots are taken is rejected, and the load with it. Once one is answered the circuit is closed, and
those that ask later are let through.
-/

namespace Fitout

namespace Breaker

section Probing

variable {T : Type} [Sub T] [LE T] [DecidableLE T] {p : Policy T} {b : Breaker T}
  {times : T → Prop} {probes : Nat}

/-- At these times the breaker admits probes, of which it has admitted so many. -/
def IsProbing (p : Policy T) (b : Breaker T) (times : T → Prop) (probes : Nat) : Prop :=
  ∃ since, b.phase = .halfOpen since probes ∨
    b.phase = .opened since ∧ probes = 0 ∧ ∀ now, times now → p.recoveryTimeout ≤ now - since

theorem IsProbing.attempt {now : T} (probing : b.IsProbing p times probes) (due : times now) :
    (p.halfOpenMaxCalls ≤ probes ∧ (b.attempt p now).verdict = .error .probesTaken) ∨
      ((probes : Int) < p.halfOpenMaxCalls ∧ (b.attempt p now).verdict = .ok () ∧
        (b.attempt p now).breaker.IsProbing p times (probes + 1)) := by
  obtain ⟨since, phase⟩ := probing
  have probed : ∃ events, b.attempt p now = b.probe p since probes events := by
    obtain halfOpen | ⟨opened, rfl, elapsed⟩ := phase
    · exact ⟨_, by simp only [Breaker.attempt, halfOpen]; rfl⟩
    · exact ⟨_, by simp only [Breaker.attempt, opened, elapsed now due, if_true]; rfl⟩
  obtain ⟨events, probed⟩ := probed
  obtain ⟨taken, rejects⟩ | ⟨left, admits⟩ := probe_cases p b since probes events
  · exact .inl ⟨taken, by rw [probed, rejects]⟩
  · refine .inr ⟨left, by rw [probed, admits], since, .inl ?_⟩
    rw [probed, admits]

omit [DecidableLE T] in
/-- Once no call runs and the recovery time has passed, all slots are there, unless calls were
cancelled. -/
theorem Ledger.Sound.isProbing {ε α : Type} {l : Ledger T ε α} {w : Watch T} (sound : l.Sound p w)
    (quiet : ∀ call ∈ l.calls, ∀ isProbe, call ≠ .running isProbe)
    (uncancelled : ∀ call ∈ l.calls, call ≠ .ended .cancelled)
    (recovered : ∀ failedAt, w.failedAt = some failedAt →
      ∀ now, times now → p.recoveryTimeout ≤ now - failedAt)
    (unclosed : l.breaker.phase ≠ .closed) : l.breaker.IsProbing p times 0 := by
  cases phase : l.breaker.phase with
  | closed => exact absurd phase unclosed
  | opened since =>
    exact ⟨since, .inr ⟨phase, rfl, recovered since (sound.opened since phase).1⟩⟩
  | halfOpen since probes =>
    obtain ⟨-, -, -, counted⟩ := sound.halfOpen since probes phase
    have none : probes = 0 := by
      rw [counted, List.countP_eq_zero]
      intro call member holds
      have held := List.mem_of_mem_drop member
      cases call with
      | running isProbe => exact quiet _ held isProbe rfl
      | ended result =>
        cases result with
        | cancelled => exact uncancelled _ held rfl
        | _ => cases holds
    exact ⟨since, .inl (none ▸ phase)⟩

end Probing

end Breaker

theorem Remote.Client.ask_of_isProbing {c : Client} {now : Float} {q : Query}
    {times : Float → Prop} {probes : Nat} (probing : c.breaker.IsProbing c.policy times probes)
    (due : times now) :
    (c.policy.halfOpenMaxCalls ≤ probes ∧
        (c.ask now q).result = .error (.rejected c.policy.name .probesTaken)) ∨
      ((probes : Int) < c.policy.halfOpenMaxCalls ∧ (c.ask now q).result = .ok () ∧
        (c.ask now q).client.breaker.IsProbing c.policy times (probes + 1)) := by
  obtain ⟨taken, rejects⟩ | ⟨left, admits, next⟩ := probing.attempt due
  · exact .inl ⟨taken, by simp only [ask, rejects]⟩
  · refine .inr ⟨left, by simp only [ask, admits], ?_⟩
    simp only [ask, admits]
    exact next

/-- The breaker alone keeps a query from being sent. -/
theorem Remote.Client.rejected_of_ask {c : Client} {now : Float} {q : Query} {e : RequestError}
    (rejects : (c.ask now q).result = .error e) : ∃ reason, e = .rejected c.policy.name reason := by
  unfold ask at rejects
  dsimp only at rejects
  split at rejects
  · cases rejects
  · exact ⟨_, (Except.error.inj rejects).symm⟩

theorem Fetch.settled_rejected (kind : Catalog.Kind) (circuit : String)
    (reason : Breaker.Rejection) :
    (ended (.error (.request (.rejected circuit reason)))).settled kind =
      (ended (.error (.request (.rejected circuit reason))), []) := by
  cases kind <;> rfl

theorem Source.fetch_receive_of_uncached {s : Source} {now : Float} {kind : Catalog.Kind}
    {body : Json} (uncached : s.cache = none)
    (given : (s.client.exchange now (.ofKind kind)).result = .ok body) :
    (s.receive now kind).fetch = .ended (.ok body) := by
  simp only [receive, given, uncached]
  split <;> simp_all

namespace Gathering

open Catalog

/-- How many turns a list has. -/
def turnsOf (turns : List Turn) (kind : Kind) : Nat :=
  turns.countP (·.kind = kind)

section Crowd

variable {turns done : List Turn} {turn : Turn} {room : Int}

/-- Without a cache a fetch is answered in its third turn. -/
def IsUnanswered (turns : List Turn) : Prop :=
  ∀ kind, turnsOf turns kind ≤ 2

/-- How many fetches have asked, and are still to be answered. -/
def askedIn (turns : List Turn) : Nat :=
  Kind.all.countP (turnsOf turns · = 2)

/-- Whether more fetches than there is room for ask before the first is answered. -/
def IsCrowded (room : Int) (turns : List Turn) : Prop :=
  ∃ early, early <+: turns ∧ IsUnanswered early ∧ room < askedIn early

instance : Decidable (IsUnanswered turns) :=
  decidable_of_iff (∀ kind ∈ Kind.all, turnsOf turns kind ≤ 2)
    ⟨fun few kind => few kind kind.mem_all, fun few kind _ => few kind⟩

instance : Decidable (IsCrowded room turns) :=
  decidable_of_iff (∃ early ∈ turns.inits, IsUnanswered early ∧ room < askedIn early)
    (by simp only [List.mem_inits, IsCrowded])

/-- There is always room for one probe for each list. -/
theorem not_isCrowded (wide : (Kind.all.length : Int) ≤ room) : ¬ IsCrowded room turns := by
  rintro ⟨early, -, -, more⟩
  have most : askedIn early ≤ Kind.all.length := List.countP_le_length
  omega

theorem turnsOf_self : turnsOf (done ++ [turn]) turn.kind = turnsOf done turn.kind + 1 := by
  simp [turnsOf]

theorem turnsOf_of_ne {kind : Kind} (ne : kind ≠ turn.kind) :
    turnsOf (done ++ [turn]) kind = turnsOf done kind := by
  simp [turnsOf, ne.symm]

theorem isCrowded_concat_iff :
    IsCrowded room (done ++ [turn]) ↔ IsCrowded room done ∨
      IsUnanswered (done ++ [turn]) ∧ room < askedIn (done ++ [turn]) := by
  simp only [IsCrowded, List.prefix_concat_iff, or_and_right, exists_or, exists_eq_left]
  exact or_comm

theorem askedIn_concat_of_ne (not_second : turnsOf done turn.kind ≠ 1)
    (not_third : turnsOf done turn.kind ≠ 2) : askedIn (done ++ [turn]) = askedIn done := by
  refine List.countP_congr fun kind _ => ?_
  by_cases same : kind = turn.kind
  · subst same
    rw [turnsOf_self]
    simp only [decide_eq_true_eq]
    omega
  · rw [turnsOf_of_ne same]

/-- A list's second turn is the one in which it asks. -/
theorem askedIn_concat_of_second (second : turnsOf done turn.kind = 1) :
    askedIn (done ++ [turn]) = askedIn done + 1 := by
  have split (f : Kind → Bool) :
      Kind.all.countP f = (Kind.all.erase turn.kind).countP f + if f turn.kind then 1 else 0 := by
    rw [(List.perm_cons_erase turn.kind.mem_all).countP_eq, List.countP_cons]
  have distinct : Kind.all.Nodup := by decide
  have others : (Kind.all.erase turn.kind).countP (turnsOf (done ++ [turn]) · = 2) =
      (Kind.all.erase turn.kind).countP (turnsOf done · = 2) := by
    refine List.countP_congr fun kind member => ?_
    rw [turnsOf_of_ne (distinct.mem_erase_iff.mp member).1]
  rw [askedIn, askedIn, split, split, others, turnsOf_self, second]
  rfl

/-- After an answer it is too late for a crowd. -/
theorem not_isCrowded_of_answered (calm : ¬ IsCrowded room done)
    (answered : ∃ kind, 3 ≤ turnsOf (done ++ [turn]) kind) : ¬ IsCrowded room (done ++ [turn]) := by
  rw [isCrowded_concat_iff]
  rintro (crowded | ⟨unanswered, -⟩)
  · exact calm crowded
  · obtain ⟨kind, many⟩ := answered
    have few := unanswered kind
    omega

theorem turnsOf_le_concat (done : List Turn) (turn : Turn) (kind : Kind) :
    turnsOf done kind ≤ turnsOf (done ++ [turn]) kind := by
  by_cases same : kind = turn.kind
  · rw [same, turnsOf_self]
    exact Nat.le_succ _
  · rw [turnsOf_of_ne same]

theorem isUnanswered_concat (unanswered : IsUnanswered done) (early : turnsOf done turn.kind ≤ 1) :
    IsUnanswered (done ++ [turn]) := by
  intro kind
  by_cases same : kind = turn.kind
  · rw [same, turnsOf_self]
    omega
  · rw [turnsOf_of_ne same]
    exact unanswered kind

/-- As long as none is answered, all that have asked have found room. -/
theorem askedIn_le (unanswered : IsUnanswered done) (calm : ¬ IsCrowded room done) :
    (askedIn done : Int) ≤ room :=
  Int.not_lt.mp fun more => calm ⟨done, List.prefix_rfl, unanswered, more⟩

theorem not_isCrowded_of_le (calm : ¬ IsCrowded room done)
    (left : (askedIn (done ++ [turn]) : Int) ≤ room) : ¬ IsCrowded room (done ++ [turn]) := by
  rw [isCrowded_concat_iff]
  rintro (crowded | ⟨-, more⟩)
  · exact calm crowded
  · omega

end Crowd

section Unfailed

variable {gives : Json → Prop} {c : Remote.Client} {s : Source} {g h : Gathering} {force : Bool}
  {done : List Turn} {turn : Turn}

/-- What a fetch without a cache is at after so many turns, where it does not fail. -/
inductive Reached (gives : Json → Prop) : Nat → Fetch → Prop where
  | begun : Reached gives 0 .begun
  | uncached : Reached gives 1 .uncached
  | asked : Reached gives 2 .asked
  | ended {turns : Nat} {body : Json} (given : gives body) :
      Reached gives (turns + 3) (.ended (.ok body))

theorem Reached.settled {turns : Nat} {f : Fetch} (reached : Reached gives turns f) (kind : Kind) :
    (f.settled kind).1 = f ∧ f.error? = none := by
  cases reached with
  | begun | uncached | asked => exact ⟨rfl, rfl⟩
  | ended => exact ⟨congrArg Prod.fst (Fetch.settled_ok _), rfl⟩

/-- No fetch of the load has failed, and each has come as far as its turns go. -/
structure Unfailed (c : Remote.Client) (done : List Turn) (g : Gathering) : Prop where
  uncached : g.source.cache = none
  setup : g.source.client.setup = c.setup
  failure : g.failure = none
  fetches : ∀ kind, Reached (c.Gives kind) (turnsOf done kind) (g.fetches kind)

theorem unfailed_start (uncached : s.cache = none) : (start s).Unfailed s.client [] :=
  ⟨uncached, rfl, rfl, fun _ => .begun⟩

/-- A step that does not fail either. -/
theorem Unfailed.put (unfailed : g.Unfailed c done) {next : Fetch.Step}
    (uncached : next.source.cache = none) (setup : next.source.client.setup = c.setup)
    (reached : Reached (c.Gives turn.kind) (turnsOf done turn.kind + 1) next.fetch) :
    (g.put turn.kind next).Unfailed c (done ++ [turn]) := by
  obtain ⟨settled, sound⟩ := reached.settled turn.kind
  refine ⟨uncached, setup, ?_, fun kind => ?_⟩
  · change g.failure.or (next.fetch.settled turn.kind).1.error? = none
    rw [unfailed.failure, settled, sound]
    rfl
  · by_cases same : kind = turn.kind
    · subst same
      rw [turnsOf_self, fetches_put_self, settled]
      exact reached
    · rw [turnsOf_of_ne same, fetches_put_of_ne same]
      exact unfailed.fetches kind

/-- All that a turn can do to a load without a cache none of whose fetches has failed. -/
inductive Taken (c : Remote.Client) (done : List Turn) (turn : Turn) (g h : Gathering) : Prop where
  | lookedUp (first : turnsOf done turn.kind = 0) (unfailed : h.Unfailed c (done ++ [turn]))
      (same : h.source.client = g.source.client)
  | admitted (second : turnsOf done turn.kind = 1) (unfailed : h.Unfailed c (done ++ [turn]))
      (admits : (g.source.client.ask turn.now (.ofKind turn.kind)).result = .ok ())
      (asked : h.source.client = (g.source.client.ask turn.now (.ofKind turn.kind)).client)
  | rejected (second : turnsOf done turn.kind = 1) {e : Remote.RequestError}
      (rejects : (g.source.client.ask turn.now (.ofKind turn.kind)).result = .error e)
      (failed : h.failure = some (.request e))
  | answered (third : turnsOf done turn.kind = 2) (unfailed : h.Unfailed c (done ++ [turn]))
      (closed : h.source.client.breaker.phase = .closed)
  | idle (later : 3 ≤ turnsOf done turn.kind) (unfailed : h.Unfailed c (done ++ [turn]))
      (same : h.source.client = g.source.client)

theorem Unfailed.taken (unfailed : g.Unfailed c done) (served : c.setup.IsServed) :
    Taken c done turn g (g.step force turn) := by
  have reached := unfailed.fetches turn.kind
  generalize count : turnsOf done turn.kind = number, fetch : g.fetches turn.kind = f at reached
  cases reached with
  | begun =>
    have step : g.step force turn = g.put turn.kind ⟨.uncached, g.source, []⟩ := by
      rw [step_open (by rw [fetch]; rfl), fetch]
      simp only [Source.advance, Source.lookup, unfailed.uncached]
    rw [step]
    refine .lookedUp count (unfailed.put unfailed.uncached unfailed.setup ?_) rfl
    rw [count]
    exact .uncached
  | uncached =>
    have step : g.step force turn = g.put turn.kind (g.source.ask turn.now turn.kind) := by
      rw [step_open (by rw [fetch]; rfl), fetch, Source.advance]
    rw [step]
    cases result : (g.source.client.ask turn.now (.ofKind turn.kind)).result with
    | ok _ =>
      refine .admitted count (unfailed.put unfailed.uncached ?_ ?_) result rfl
      · exact Remote.Client.setup_ask.trans unfailed.setup
      · simp only [Source.ask, result, count]
        exact .asked
    | error e =>
      obtain ⟨reason, rfl⟩ := Remote.Client.rejected_of_ask result
      refine .rejected count result ?_
      change g.failure.or ((g.source.ask turn.now turn.kind).fetch.settled turn.kind).1.error? = _
      simp only [Source.ask, result, unfailed.failure, Fetch.settled_rejected]
      rfl
  | asked =>
    have step : g.step force turn = g.put turn.kind (g.source.receive turn.now turn.kind) := by
      rw [step_open (by rw [fetch]; rfl), fetch, Source.advance]
    obtain ⟨status, content, body, answer, least, most, read⟩ :=
      served.answers turn.kind g.source.client.server.received
    obtain ⟨⟨setup, closed⟩, given⟩ := Remote.Client.alike_exchange unfailed.setup turn.now
      (served.writable turn.kind) (served.rooted turn.kind) answer (most.trans (by decide)) read
    rw [step]
    refine .answered count (unfailed.put unfailed.uncached setup ?_) closed
    rw [Source.fetch_receive_of_uncached unfailed.uncached given, count]
    exact .ended ⟨_, status, content, answer, least, most, read⟩
  | ended given =>
    have step : g.step force turn = g := step_ended (by rw [fetch]; rfl)
    rw [step]
    refine .idle (by omega)
      ⟨unfailed.uncached, unfailed.setup, unfailed.failure, fun kind => ?_⟩ rfl
    by_cases same : kind = turn.kind
    · subst same
      rw [turnsOf_self, fetch, count]
      exact .ended given
    · rw [turnsOf_of_ne same]
      exact unfailed.fetches kind

end Unfailed

section Recovering

variable {c : Remote.Client} {s : Source} {times : Float → Prop} {g : Gathering} {force : Bool}
  {turns done : List Turn} {turn : Turn}

/-- Where a load is whose fetches were probes at first: none is answered yet; or one was, and the
circuit is closed; or one found all slots taken. -/
inductive Recovering (c : Remote.Client) (times : Float → Prop) (done : List Turn) (g : Gathering) :
    Prop where
  | probing (unfailed : g.Unfailed c done) (unanswered : IsUnanswered done)
      (probing : g.source.client.breaker.IsProbing c.policy times (askedIn done))
      (calm : ¬ IsCrowded c.policy.halfOpenMaxCalls done)
  | closed (unfailed : g.Unfailed c done) (answered : ∃ kind, 3 ≤ turnsOf done kind)
      (closed : g.source.client.breaker.phase = .closed)
      (calm : ¬ IsCrowded c.policy.halfOpenMaxCalls done)
  | rejected (failed : g.failure = some (.request (.rejected c.policy.name .probesTaken)))
      (crowded : IsCrowded c.policy.halfOpenMaxCalls done)

theorem failure_step {e : LoadError} (failed : g.failure = some e) :
    (g.step force turn).failure = some e := by
  unfold step
  split
  · exact failed
  · exact Option.or_eq_some_iff.mpr (.inl failed)

theorem Unfailed.ask_of_isProbing (unfailed : g.Unfailed c done) {q : Remote.Query} {probes : Nat}
    {now : Float} (probing : g.source.client.breaker.IsProbing c.policy times probes)
    (due : times now) :
    (c.policy.halfOpenMaxCalls ≤ probes ∧
        (g.source.client.ask now q).result = .error (.rejected c.policy.name .probesTaken)) ∨
      ((probes : Int) < c.policy.halfOpenMaxCalls ∧ (g.source.client.ask now q).result = .ok () ∧
        (g.source.client.ask now q).client.breaker.IsProbing c.policy times (probes + 1)) := by
  have policy : g.source.client.policy = c.policy :=
    Remote.Client.congr_of_setup_eq unfailed.setup (·.policy) fun _ => rfl
  rw [← policy] at probing ⊢
  exact Remote.Client.ask_of_isProbing probing due

/-- Behind a circuit that an answer has closed, all goes well. -/
theorem Unfailed.step_closed (unfailed : g.Unfailed c done) (served : c.setup.IsServed)
    (answered : ∃ kind, 3 ≤ turnsOf done kind) (closed : g.source.client.breaker.phase = .closed)
    (calm : ¬ IsCrowded c.policy.halfOpenMaxCalls done) :
    Recovering c times (done ++ [turn]) (g.step force turn) := by
  obtain ⟨kind, many⟩ := answered
  have answered : ∃ kind, 3 ≤ turnsOf (done ++ [turn]) kind :=
    ⟨kind, many.trans (turnsOf_le_concat done turn kind)⟩
  have calm := not_isCrowded_of_answered calm answered
  have alike : c.Alike g.source.client := ⟨unfailed.setup, closed⟩
  obtain ⟨⟨-, closedStill⟩, admits⟩ := alike.ask turn.now (.ofKind turn.kind)
  have taken : Taken c done turn g (g.step force turn) := unfailed.taken served
  cases taken with
  | lookedUp _ unfailed same | idle _ unfailed same =>
    exact .closed unfailed answered (same ▸ closed) calm
  | admitted _ unfailed _ asked => exact .closed unfailed answered (asked ▸ closedStill) calm
  | rejected _ rejects => cases rejects.symm.trans admits
  | answered _ unfailed closed => exact .closed unfailed answered closed calm

/-- Before the first answer a fetch that asks takes a slot, or finds none and makes the crowd. -/
theorem Unfailed.step_probing (unfailed : g.Unfailed c done) (served : c.setup.IsServed)
    (due : times turn.now) (unanswered : IsUnanswered done)
    (probing : g.source.client.breaker.IsProbing c.policy times (askedIn done))
    (calm : ¬ IsCrowded c.policy.halfOpenMaxCalls done) :
    Recovering c times (done ++ [turn]) (g.step force turn) := by
  have room := askedIn_le unanswered calm
  have taken : Taken c done turn g (g.step force turn) := unfailed.taken served
  cases taken with
  | lookedUp first next same =>
    have kept : askedIn (done ++ [turn]) = askedIn done :=
      askedIn_concat_of_ne (by omega) (by omega)
    refine .probing next (isUnanswered_concat unanswered (by omega)) ?_
      (not_isCrowded_of_le calm (by omega))
    rw [same, kept]
    exact probing
  | admitted second next admits asked =>
    have more := askedIn_concat_of_second second
    obtain ⟨-, rejects⟩ | ⟨left, -, after⟩ := unfailed.ask_of_isProbing probing due
    · cases admits.symm.trans rejects
    · refine .probing next (isUnanswered_concat unanswered (by omega)) ?_
        (not_isCrowded_of_le calm (by omega))
      rw [asked, more]
      exact after
  | rejected second rejects failed =>
    have more := askedIn_concat_of_second second
    obtain ⟨taken, rejected⟩ | ⟨-, admits, -⟩ := unfailed.ask_of_isProbing probing due
    · obtain rfl := Except.error.inj (rejects.symm.trans rejected)
      -- The turn with which the slots run out is the last of the prefix that is crowded.
      refine .rejected failed (isCrowded_concat_iff.mpr (.inr ⟨?_, by omega⟩))
      exact isUnanswered_concat unanswered (by omega)
    · cases rejects.symm.trans admits
  | answered third next closed =>
    have answered : ∃ kind, 3 ≤ turnsOf (done ++ [turn]) kind :=
      ⟨turn.kind, by rw [turnsOf_self, third]⟩
    exact .closed next answered closed (not_isCrowded_of_answered calm answered)
  | idle later =>
    have few := unanswered turn.kind
    omega

theorem Recovering.step (recovering : Recovering c times done g) (served : c.setup.IsServed)
    (due : times turn.now) : Recovering c times (done ++ [turn]) (g.step force turn) := by
  cases recovering with
  | probing unfailed unanswered probing calm =>
    exact unfailed.step_probing served due unanswered probing calm
  | closed unfailed answered closed calm => exact unfailed.step_closed served answered closed calm
  | rejected failed crowded =>
    exact .rejected (failure_step failed) (isCrowded_concat_iff.mpr (.inl crowded))

theorem recovering_run (served : s.client.setup.IsServed) (uncached : s.cache = none)
    (mayProbe : 1 ≤ s.client.policy.halfOpenMaxCalls)
    (probing : s.client.breaker.IsProbing s.client.policy times 0)
    (due : ∀ turn ∈ turns, times turn.now) :
    Recovering s.client times turns ((start s).run force turns) := by
  induction turns using List.reverseRecOn with
  | nil =>
    refine .probing (unfailed_start uncached) (fun _ => Nat.zero_le _) probing ?_
    rintro ⟨early, isPrefix, -, more⟩
    obtain rfl := List.prefix_nil.mp isPrefix
    have none : askedIn [] = 0 := rfl
    omega
  | append_singleton done turn inductionHypothesis =>
    rw [run_append]
    exact (inductionHypothesis fun turn member => due turn (List.mem_append_left _ member)).step
      served (due turn (List.mem_append_right _ List.mem_cons_self))

end Recovering

end Gathering

namespace Source

open Catalog

variable {s : Source} {force : Bool} {turns : List Turn}

/-- Behind a closed circuit a load without a cache takes what the server gives. -/
theorem loadBy_of_closed (uncached : s.cache = none) (served : s.client.IsServed)
    (complete : Gathering.IsComplete turns) :
    ∃ (step : Step Data) (bodies : Catalog.Lists Json), s.loadBy force turns = some step ∧
      (∀ kind, s.client.Gives kind (bodies kind)) ∧ step.result = .ok bodies.data := by
  obtain ⟨step, found, bodies, loaded, consulted, given, outcome⟩ :=
    exists_loadBy_eq s force served complete
  have off : s.isConnected = false := by rw [isConnected, uncached]; rfl
  have listOf (kind : Kind) : s.listOf (found kind) (bodies kind) = .ok (bodies kind) := by
    have consulted := consulted kind
    generalize found kind = found, step.events.lookups kind = events at consulted
    cases consulted with
    | skipped => simp only [Source.listOf, off, Bool.false_eq_true, if_false]
    | refused on | absent on | held on => cases off.symm.trans on.2
  refine ⟨step, bodies, loaded, given, ?_⟩
  obtain ⟨lists, result, same⟩ | ⟨kind, e, -, failed⟩ := outcome
  · obtain rfl : lists = bodies :=
      funext fun kind => Except.ok.inj ((same kind).symm.trans (listOf kind))
    exact result
  · cases (listOf kind).symm.trans failed

theorem exists_loadBy_of_outcome (uncached : s.cache = none)
    {outcome : Except LoadError (Catalog.Lists Json)}
    (known : ((Gathering.start s).run force turns).outcome? = some outcome) :
    ∃ step : Step Data, s.loadBy force turns = some step ∧
      step.result = outcome.map Catalog.Lists.data := by
  simp only [Source.loadBy, forget, uncached, known, Option.map_some]
  cases outcome <;> exact ⟨_, rfl, rfl⟩

/-- Behind a circuit that probes, a load is rejected if its fetches crowd. -/
theorem loadBy_of_isProbing (force : Bool) {times : Float → Prop} (uncached : s.cache = none)
    (served : s.client.setup.IsServed) (mayProbe : 1 ≤ s.client.policy.halfOpenMaxCalls)
    (probing : s.client.breaker.IsProbing s.client.policy times 0)
    (due : ∀ turn ∈ turns, times turn.now) (complete : Gathering.IsComplete turns) :
    ∃ step : Step Data, s.loadBy force turns = some step ∧
      (¬ Gathering.IsCrowded s.client.policy.halfOpenMaxCalls turns ∧
          (∃ bodies : Catalog.Lists Json, (∀ kind, s.client.Gives kind (bodies kind)) ∧
            step.result = .ok bodies.data) ∨
        Gathering.IsCrowded s.client.policy.halfOpenMaxCalls turns ∧
          step.result =
            .error (.request (.rejected s.client.policy.name .probesTaken))) := by
  have recovering : Gathering.Recovering s.client times turns
      ((Gathering.start s).run force turns) :=
    Gathering.recovering_run served uncached mayProbe probing due
  cases recovering with
  | probing unfailed unanswered =>
    have few := unanswered .categories
    have many : 4 ≤ Gathering.turnsOf turns .categories := complete .categories
    omega
  | closed unfailed answered closed calm =>
    have each (kind : Kind) : ∃ body, s.client.Gives kind body ∧
        ((Gathering.start s).run force turns).fetches kind = .ended (.ok body) := by
      have many : 4 ≤ Gathering.turnsOf turns kind := complete kind
      have reached := unfailed.fetches kind
      generalize Gathering.turnsOf turns kind = number,
        ((Gathering.start s).run force turns).fetches kind = f at many reached
      cases reached with
      | begun | uncached | asked => omega
      | ended given => exact ⟨_, given, rfl⟩
    choose bodies given ended using each
    obtain ⟨step, loaded, result⟩ := exists_loadBy_of_outcome uncached
      (Gathering.outcome?_eq_ok_iff.mpr ⟨unfailed.failure, ended⟩)
    exact ⟨step, loaded, .inl ⟨calm, bodies, given, result⟩⟩
  | rejected failed crowded =>
    obtain ⟨step, loaded, result⟩ := exists_loadBy_of_outcome uncached
      (Gathering.outcome?_eq_error_iff.mpr failed)
    exact ⟨step, loaded, .inr ⟨crowded, result⟩⟩

section Outage

/-- A server that is back after five requests in a row failed. -/
def afterOutage : Source where
  client :=
    { Remote.Client.ofRule fun _ _ => .answered 200 emptyContent with breaker := ⟨.opened 0, 5⟩ }
  cache := none
  nesting := none

/-- The five requests that failed. -/
def outage : List (Breaker.Action Float String Unit) :=
  (List.range 5).flatMap fun place => [.begin, .finish (place + 1) (.error "down")]

/-- Turns in which all fetches go on side by side. -/
def sideBySide (now : Float) : List Turn :=
  (List.range 4).flatMap fun _ => Kind.all.map (⟨·, now⟩)

theorem now_of_mem_sideBySide {now : Float} {turn : Turn} (member : turn ∈ sideBySide now) :
    turn.now = now := by
  obtain ⟨_, -, member⟩ := List.mem_flatMap.mp member
  obtain ⟨kind, -, rfl⟩ := List.mem_map.mp member
  rfl

theorem now_of_mem_inOrder {now : Float} {kinds : List Kind} {turn : Turn}
    (member : turn ∈ inOrder now kinds) : turn.now = now := by
  obtain ⟨kind, -, member⟩ := List.mem_flatMap.mp member
  rw [List.eq_of_mem_replicate member]

theorem isComplete_sideBySide (now : Float) : Gathering.IsComplete (sideBySide now) := by
  intro kind
  cases kind <;> exact Nat.le_refl 4

theorem isServed_afterOutage : afterOutage.client.setup.IsServed where
  closed := rfl
  writable kind := by cases kind <;> rfl
  rooted kind := Remote.Client.showsScheme_ofRule (fun _ _ => .answered 200 emptyContent) _
  answers _ _ := ⟨200, emptyContent, _, rfl, by decide, by decide, readBody_emptyContent⟩

theorem breaker_outage :
    (Breaker.Ledger.run afterOutage.client.policy 0 outage).breaker = ⟨.opened 0, 5⟩ :=
  rfl

theorem ended_outage :
    (∀ call ∈ (Breaker.Ledger.run afterOutage.client.policy 0 outage).calls, ∀ isProbe,
        call ≠ .running isProbe) ∧
      ∀ call ∈ (Breaker.Ledger.run afterOutage.client.policy 0 outage).calls,
        call ≠ .ended .cancelled := by
  have calls : (Breaker.Ledger.run afterOutage.client.policy 0 outage).calls =
      List.replicate 5 (.ended (.raised "down")) := rfl
  rw [calls]
  constructor
  · intro call member isProbe same
    cases (List.eq_of_mem_replicate member).symm.trans same
  · intro call member same
    cases (List.eq_of_mem_replicate member).symm.trans same

theorem recovered_afterOutage (late : ∀ turn ∈ turns, turn.now = 30) (failedAt : Float)
    (failed : (Breaker.Watch.ofRun afterOutage.client.policy 0 outage).failedAt = some failedAt) :
    ∀ turn ∈ turns, afterOutage.client.policy.recoveryTimeout ≤ turn.now - failedAt := by
  intro turn member
  obtain rfl := Option.some.inj failed
  rw [late turn member]
  decide +kernel

end Outage

/-- No call runs or was cancelled, and if the circuit is not closed the recovery time has passed
since the latest failure. Then, if the server gives a body for each list, a load without a cache
returns them, in any order of the turns: unless the circuit is not closed and more fetches ask
before the first is answered than it admits probes, in which case the load is rejected. With a slot
for each list that cannot happen. -/
theorem reload_returns_unless_crowded {ε α : Type} (s : Source) (force : Bool) (turns : List Turn)
    (start : Float) (trace : List (Breaker.Action Float ε α)) {l : Breaker.Ledger Float ε α}
    (run : Breaker.Ledger.run s.client.policy start trace = l)
    (reached : s.client.breaker = l.breaker)
    (quiet : ∀ call ∈ l.calls, ∀ isProbe, call ≠ .running isProbe)
    (uncancelled : ∀ call ∈ l.calls, call ≠ .ended .cancelled)
    (recovered : l.breaker.phase = .closed ∨ ∀ failedAt,
      (Breaker.Watch.ofRun s.client.policy start trace).failedAt = some failedAt →
        ∀ turn ∈ turns, s.client.policy.recoveryTimeout ≤ turn.now - failedAt)
    (mayProbe : 1 ≤ s.client.policy.halfOpenMaxCalls) (uncached : s.cache = none)
    (served : s.client.setup.IsServed) (complete : Gathering.IsComplete turns) :
    ∃ step : Step Data, s.loadBy force turns = some step ∧
      (l.breaker.phase = .closed ∨
          (Kind.all.length : Int) ≤ s.client.policy.halfOpenMaxCalls ∨
          ¬ Gathering.IsCrowded s.client.policy.halfOpenMaxCalls turns →
        ∃ bodies : Catalog.Lists Json, (∀ kind, s.client.Gives kind (bodies kind)) ∧
          step.result = .ok bodies.data) ∧
      (l.breaker.phase ≠ .closed →
        Gathering.IsCrowded s.client.policy.halfOpenMaxCalls turns →
        step.result = .error (.request (.rejected s.client.policy.name .probesTaken))) := by
  by_cases closed : l.breaker.phase = .closed
  · have served : s.client.IsServed :=
      ⟨reached ▸ closed, served.writable, served.rooted, served.answers⟩
    obtain ⟨step, bodies, loaded, given, result⟩ := loadBy_of_closed uncached served complete
    exact ⟨step, loaded, fun _ => ⟨bodies, given, result⟩, fun open_ => absurd closed open_⟩
  · have sound : l.Sound s.client.policy (.ofRun s.client.policy start trace) :=
      run ▸ Breaker.Ledger.sound_run s.client.policy start trace
    have probing : l.breaker.IsProbing s.client.policy (fun now => ∃ turn ∈ turns, turn.now = now)
        0 := by
      refine sound.isProbing quiet uncancelled (fun failedAt failed => ?_) closed
      rintro now ⟨turn, member, rfl⟩
      exact (recovered.resolve_left closed) failedAt failed turn member
    obtain ⟨step, loaded, ⟨calm, given⟩ | ⟨crowded, rejected⟩⟩ :=
      loadBy_of_isProbing force uncached served mayProbe (reached ▸ probing)
        (fun turn member => ⟨turn, member, rfl⟩) complete
    · exact ⟨step, loaded, fun _ => given, fun _ crowded => absurd crowded calm⟩
    · refine ⟨step, loaded, ?_, fun _ _ => rejected⟩
      rintro (open_ | wide | calm)
      · exact absurd open_ closed
      · exact absurd crowded (Gathering.not_isCrowded wide)
      · exact absurd crowded calm

/-- Where the lists are fetched one after the other, the first answer closes the circuit. -/
theorem reload_in_order_returns :
    let s := afterOutage
    let turns := inOrder 30 Kind.all
    let l := Breaker.Ledger.run s.client.policy 0 outage
    l.breaker.phase ≠ .closed ∧ ¬ Gathering.IsCrowded s.client.policy.halfOpenMaxCalls turns ∧
      ∃ (step : Step Data) (bodies : Catalog.Lists Json), s.loadBy false turns = some step ∧
        (∀ kind, s.client.Gives kind (bodies kind)) ∧ step.result = .ok bodies.data := by
  obtain ⟨quiet, uncancelled⟩ := ended_outage
  have open_ : (Breaker.Ledger.run afterOutage.client.policy 0 outage).breaker.phase ≠ .closed := by
    rw [breaker_outage]
    exact nofun
  have calm : ¬ Gathering.IsCrowded afterOutage.client.policy.halfOpenMaxCalls
      (inOrder 30 Kind.all) := by
    decide +kernel
  obtain ⟨step, loaded, returns, -⟩ := reload_returns_unless_crowded afterOutage false
    (inOrder 30 Kind.all) 0 outage rfl breaker_outage.symm quiet uncancelled
    (.inr (recovered_afterOutage fun _ => now_of_mem_inOrder)) (by decide) rfl isServed_afterOutage
    (isComplete_inOrder 30)
  obtain ⟨bodies, given, result⟩ := returns (.inr (.inr calm))
  exact ⟨open_, calm, step, bodies, loaded, given, result⟩

/-- Where they are fetched side by side, the second finds the one slot taken. -/
theorem reload_side_by_side_is_rejected :
    let s := afterOutage
    let turns := sideBySide 30
    let l := Breaker.Ledger.run s.client.policy 0 outage
    s.client.breaker = l.breaker ∧
      (∀ call ∈ l.calls, ∀ isProbe, call ≠ .running isProbe) ∧
      (∀ call ∈ l.calls, call ≠ .ended .cancelled) ∧
      (∀ failedAt, (Breaker.Watch.ofRun s.client.policy 0 outage).failedAt = some failedAt →
        ∀ turn ∈ turns, s.client.policy.recoveryTimeout ≤ turn.now - failedAt) ∧
      1 ≤ s.client.policy.halfOpenMaxCalls ∧ s.cache = none ∧ s.client.setup.IsServed ∧
      Gathering.IsComplete turns ∧
      ∃ step : Step Data, s.loadBy false turns = some step ∧
        step.result = .error (.request (.rejected s.client.policy.name .probesTaken)) := by
  obtain ⟨quiet, uncancelled⟩ := ended_outage
  have elapsed : afterOutage.client.policy.recoveryTimeout ≤ 30 - 0 := by decide +kernel
  have crowded : Gathering.IsCrowded afterOutage.client.policy.halfOpenMaxCalls
      (sideBySide 30) := by
    decide +kernel
  refine ⟨breaker_outage.symm, quiet, uncancelled,
    recovered_afterOutage fun _ => now_of_mem_sideBySide, by decide, rfl, isServed_afterOutage,
    isComplete_sideBySide 30, ?_⟩
  have probing : afterOutage.client.breaker.IsProbing afterOutage.client.policy (· = 30) 0 :=
    ⟨0, .inr ⟨rfl, rfl, fun now at_ => at_ ▸ elapsed⟩⟩
  obtain ⟨step, loaded, ⟨calm, -⟩ | ⟨-, rejected⟩⟩ :=
    loadBy_of_isProbing false rfl isServed_afterOutage (by decide) probing
      (fun _ => now_of_mem_sideBySide) (isComplete_sideBySide 30)
  · exact absurd crowded calm
  · exact ⟨step, loaded, rejected⟩

end Source

end Fitout
