import Fitout.Proofs.Source.Frame

/-!
# The course of a fetch

While fetches overlap, each depends on the others only through the breaker and the server: what the
cache holds for a list is touched by the list's own fetch alone. So whatever is known of the server,
each fetch goes through the cache's answer to the server's body and from there to its end.
-/

namespace Fitout

namespace Stored

/-- The body that stored bytes hold, where null counts as none. -/
def body? (stored : Stored) : Except MessagePack.DecodeError (Option Json) :=
  match MessagePack.decode stored.bytes with
  | .error e => .error e
  | .ok .null => .ok none
  | .ok value => .ok (some value.toJson)

end Stored

namespace Source

/-- What looking up a list comes to, with what is reported of it. -/
inductive Consulted (s : Source) (force : Bool) (kind : Catalog.Kind) :
    Journal → Except MessagePack.DecodeError (Option Json) → Prop where
  | skipped (off : force = true ∨ s.isConnected = false) : Consulted s force kind [] (.ok none)
  | refused {number : Nat} {message : String} (on : force = false ∧ s.isConnected = true)
      (refused : s.refusal? number = some message) :
      Consulted s force kind [.cacheFailed (.get kind.name) message] (.ok none)
  | absent {number : Nat} (on : force = false ∧ s.isConnected = true)
      (taken : s.refusal? number = none) (missing : s.stored? kind = none) :
      Consulted s force kind [.cacheLookup kind.name false] (.ok none)
  | held {number : Nat} {stored : Stored} (on : force = false ∧ s.isConnected = true)
      (taken : s.refusal? number = none) (held : s.stored? kind = some stored) :
      Consulted s force kind [.cacheLookup kind.name true] stored.body?

/-- What the cache holds for a list after a body for it was given. -/
inductive Kept (s : Source) (kind : Catalog.Kind) (body : Json) : Option Stored → Prop where
  | skipped (off : body = .null ∨ s.isConnected = false) : Kept s kind body (s.stored? kind)
  | refused {number : Nat} {bytes : Bytes} {message : String}
      (packed : MessagePack.encode s.nesting body = .ok bytes)
      (refused : s.refusal? number = some message) : Kept s kind body (s.stored? kind)
  | stored {stored : Stored} (given : body ≠ .null)
      (packed : MessagePack.encode s.nesting body = .ok stored.bytes) :
      Kept s kind body (some stored)

section Steps

variable {s t : Source} {force : Bool} {now : Float} {kind : Catalog.Kind}

theorem Consulted.of_alike {events : Journal}
    {found : Except MessagePack.DecodeError (Option Json)}
    (same : t.setup = s.setup) (held : t.stored? kind = s.stored? kind)
    (consulted : t.Consulted force kind events found) : s.Consulted force kind events found := by
  have connected := isConnected_eq_of_setup_eq same
  have refusals := refusal?_eq_of_setup_eq same
  cases consulted with
  | skipped off => exact .skipped (connected ▸ off)
  | refused on refused => exact .refused (connected ▸ on) (refusals ▸ refused)
  | absent on taken missing => exact .absent (connected ▸ on) (refusals ▸ taken) (held ▸ missing)
  | held on taken stored => exact .held (connected ▸ on) (refusals ▸ taken) (held ▸ stored)

/-- A server that refuses every command is of no help. -/
theorem Consulted.eq_none_of_refused {events : Journal}
    {found : Except MessagePack.DecodeError (Option Json)}
    (refused : ∀ number, s.refusal? number ≠ none)
    (consulted : s.Consulted force kind events found) : found = .ok none := by
  cases consulted with
  | skipped | refused => rfl
  | absent _ taken | held _ taken => exact absurd taken (refused _)

theorem Consulted.eq_none_of_missing {events : Journal}
    {found : Except MessagePack.DecodeError (Option Json)} (missing : s.stored? kind = none)
    (consulted : s.Consulted force kind events found) : found = .ok none := by
  cases consulted with
  | skipped | refused | absent => rfl
  | held _ _ held =>
    rw [missing] at held
    cases held

/-- A server that refuses none gives what it holds. -/
theorem Consulted.eq_of_held {events : Journal}
    {found : Except MessagePack.DecodeError (Option Json)} {stored : Stored}
    (on : force = false ∧ s.isConnected = true) (taken : ∀ number, s.refusal? number = none)
    (held : s.stored? kind = some stored) (consulted : s.Consulted force kind events found) :
    events = [.cacheLookup kind.name true] ∧ found = stored.body? := by
  cases consulted with
  | skipped off =>
    obtain off | off := off
    · rw [on.1] at off
      cases off
    · rw [on.2] at off
      cases off
  | refused _ refused =>
    rw [taken] at refused
    cases refused
  | absent _ _ missing =>
    rw [held] at missing
    cases missing
  | held _ _ other =>
    obtain rfl := Option.some.inj (held.symm.trans other)
    exact ⟨rfl, rfl⟩

theorem Kept.of_alike {body : Json} {now : Option Stored} (same : t.setup = s.setup)
    (held : t.stored? kind = s.stored? kind) (kept : t.Kept kind body now) :
    s.Kept kind body now := by
  have connected := isConnected_eq_of_setup_eq same
  have nesting := nesting_eq_of_setup_eq same
  cases kept with
  | skipped off => exact held ▸ .skipped (connected ▸ off)
  | refused packed refused =>
    exact held ▸ .refused (nesting ▸ packed) (refusal?_eq_of_setup_eq same ▸ refused)
  | stored given packed => exact .stored given (nesting ▸ packed)

/-- The fetch that goes on with what the cache gave. -/
def afterLookup : Except MessagePack.DecodeError (Option Json) → Fetch
  | .error e => .ended (.error (.unpacking e))
  | .ok (some body) => .ended (.ok body)
  | .ok none => .uncached

theorem consulted_lookup (s : Source) (force : Bool) (kind : Catalog.Kind) :
    ∃ found, s.Consulted force kind (s.lookup force kind).events found ∧
      (s.lookup force kind).fetch = afterLookup found := by
  unfold lookup
  split
  · rename_i none
    exact ⟨_, .skipped (.inr (by rw [isConnected, none]; rfl)), rfl⟩
  · rename_i cache some
    have connected := isConnected_of_cache_eq_some some
    have refusal := refusal?_of_cache_eq_some some
    have held := stored?_of_cache_eq_some some kind
    split
    · rename_i forced
      exact ⟨_, .skipped (.inl forced), rfl⟩
    · rename_i looked
      have looked : force = false := Bool.eq_false_iff.mpr looked
      have gets := cache.gets_get kind.name
      generalize cache.get kind.name = step at gets
      cases gets with
      | off off => exact ⟨_, .skipped (.inr (connected.trans off)), rfl⟩
      | refused on refused =>
        exact ⟨_, .refused ⟨looked, connected.trans on⟩ (refusal ▸ refused), rfl⟩
      | absent on taken missing =>
        exact ⟨_, .absent ⟨looked, connected.trans on⟩ (refusal ▸ taken) (held.trans missing), rfl⟩
      | @held stored on taken found =>
        refine ⟨_, .held ⟨looked, connected.trans on⟩ (refusal ▸ taken) (held.trans found), ?_⟩
        unfold Stored.body?
        cases MessagePack.decode stored.bytes with
        | error e => rfl
        | ok value => cases value <;> rfl

/-- What becomes of a body that is to be kept. -/
theorem kept_keep (s : Source) (kind : Catalog.Kind) {body : Json} (given : body ≠ .null) :
    ((s.keep kind body).fetch = .ended (.ok body) ∧
        s.Kept kind body ((s.keep kind body).source.stored? kind)) ∨
      ∃ e, (s.keep kind body).fetch = .ended (.error (.packing e)) ∧
        s.isConnected = true ∧ MessagePack.encode s.nesting body = .error e ∧
        (s.keep kind body).source.stored? kind = s.stored? kind := by
  unfold keep
  split
  · rename_i none
    exact .inl ⟨rfl, .skipped (.inr (by rw [isConnected, none]; rfl))⟩
  · rename_i cache some
    have connected := isConnected_of_cache_eq_some some
    have refusal := refusal?_of_cache_eq_some some
    have held := stored?_of_cache_eq_some some kind
    have sets := cache.sets_set s.nesting kind.name body
    generalize cache.set s.nesting kind.name body = step at sets
    cases sets with
    | off off =>
      have kept : s.Kept kind body (s.stored? kind) := .skipped (.inr (connected.trans off))
      exact .inl ⟨rfl, (held ▸ kept :)⟩
    | @unpackable e on packing => exact .inr ⟨e, rfl, connected.trans on, packing, held.symm⟩
    | refused on packed refused =>
      have kept : s.Kept kind body (s.stored? kind) := .refused packed (refusal ▸ refused)
      exact .inl ⟨rfl, (held ▸ kept :)⟩
    | @stored bytes on packed taken =>
      have kept : s.Kept kind body (.some ⟨.some cache.ttl, bytes⟩) := .stored given packed
      have now : KeyValueServer.get? (cache.server.send.1.put (Cache.key kind.name)
          ⟨.some cache.ttl, bytes⟩) (Cache.key kind.name) = .some ⟨.some cache.ttl, bytes⟩ :=
        Json.lookup_setMember_self
      exact .inl ⟨rfl, (now ▸ kept :)⟩

theorem Consulted.lookups_self {events : Journal}
    {found : Except MessagePack.DecodeError (Option Json)}
    (consulted : s.Consulted force kind events found) : events.lookups kind = events := by
  cases consulted <;> simp [Journal.lookups, Event.isLookup]

theorem Consulted.lookups_of_ne {events : Journal}
    {found : Except MessagePack.DecodeError (Option Json)} {other : Catalog.Kind}
    (ne : other ≠ kind) (consulted : s.Consulted force kind events found) :
    events.lookups other = [] := by
  have names : (kind.name == other.name) = false :=
    beq_false_of_ne fun same => ne (Catalog.Kind.name_injective same.symm)
  cases consulted <;> simp [Journal.lookups, Event.isLookup, names]

theorem lookups_advance_of_ne {other : Catalog.Kind} (ne : other ≠ kind) (f : Fetch) :
    (s.advance now force kind f).events.lookups other = [] := by
  cases f with
  | begun =>
    obtain ⟨found, consulted, -⟩ := s.consulted_lookup force kind
    exact consulted.lookups_of_ne ne
  | uncached => exact Remote.Client.lookups_ask
  | asked => exact Remote.Client.lookups_exchange
  | answered body => exact lookups_keep
  | ended result => rfl

end Steps

/-- What is known of the client: a property that queries for lists keep, the bodies they give, and
the errors. -/
structure Serves (P : Remote.Client → Prop) (gives : Catalog.Kind → Json → Prop)
    (refuses : Catalog.Kind → Remote.RequestError → Prop) : Prop where
  ask : ∀ (c : Remote.Client) (now : Float) (kind : Catalog.Kind), P c →
    P (c.ask now (.ofKind kind)).client ∧
      ∀ e, (c.ask now (.ofKind kind)).result = .error e → refuses kind e
  exchange : ∀ (c : Remote.Client) (now : Float) (kind : Catalog.Kind), P c →
    P (c.exchange now (.ofKind kind)).client ∧
      (∀ body, (c.exchange now (.ofKind kind)).result = .ok body → gives kind body) ∧
      ∀ e, (c.exchange now (.ofKind kind)).result = .error e → refuses kind e

/-- How far the fetch of a list has come, with what the cache now holds for the list and what was
reported of its lookup. -/
inductive Progress (s : Source) (force : Bool) (gives : Catalog.Kind → Json → Prop)
    (refuses : Catalog.Kind → Remote.RequestError → Prop) (kind : Catalog.Kind) :
    Option Stored → Journal → Fetch → Prop where
  | begun : Progress s force gives refuses kind (s.stored? kind) [] .begun
  | uncached {events : Journal} (consulted : s.Consulted force kind events (.ok none)) :
      Progress s force gives refuses kind (s.stored? kind) events .uncached
  | asked {events : Journal} (consulted : s.Consulted force kind events (.ok none)) :
      Progress s force gives refuses kind (s.stored? kind) events .asked
  | answered {events : Journal} {body : Json}
      (consulted : s.Consulted force kind events (.ok none)) (given : gives kind body)
      (there : body ≠ .null) :
      Progress s force gives refuses kind (s.stored? kind) events (.answered body)
  | cached {events : Journal} {body : Json}
      (consulted : s.Consulted force kind events (.ok (some body))) :
      Progress s force gives refuses kind (s.stored? kind) events (.ended (.ok body))
  | undecodable {events : Journal} {e : MessagePack.DecodeError}
      (consulted : s.Consulted force kind events (.error e)) :
      Progress s force gives refuses kind (s.stored? kind) events (.ended (.error (.unpacking e)))
  | fetched {held : Option Stored} {events : Journal} {body : Json}
      (consulted : s.Consulted force kind events (.ok none)) (given : gives kind body)
      (kept : s.Kept kind body held) :
      Progress s force gives refuses kind held events (.ended (.ok body))
  | unpackable {events : Journal} {body : Json} {e : MessagePack.EncodeError}
      (consulted : s.Consulted force kind events (.ok none)) (given : gives kind body)
      (connected : s.isConnected = true) (packing : MessagePack.encode s.nesting body = .error e) :
      Progress s force gives refuses kind (s.stored? kind) events (.ended (.error (.packing e)))
  | refused {events : Journal} {e : Remote.RequestError}
      (consulted : s.Consulted force kind events (.ok none)) (refused : refuses kind e) :
      Progress s force gives refuses kind (s.stored? kind) events
        ((Fetch.ended (.error (.request e))).settled kind).1

section Progress

variable {s t : Source} {force : Bool} {now : Float} {kind : Catalog.Kind}
  {P : Remote.Client → Prop} {gives : Catalog.Kind → Json → Prop}
  {refuses : Catalog.Kind → Remote.RequestError → Prop}

theorem progress_lookup (same : t.setup = s.setup) (held : t.stored? kind = s.stored? kind) :
    s.Progress force gives refuses kind ((t.lookup force kind).source.stored? kind)
      ((t.lookup force kind).events.lookups kind) ((t.lookup force kind).fetch.settled kind).1 := by
  obtain ⟨found, consulted, fetch⟩ := t.consulted_lookup force kind
  rw [stored?_lookup, held, consulted.lookups_self, fetch]
  replace consulted := consulted.of_alike same held
  match found, consulted with
  | .error e, consulted =>
    rw [afterLookup, Fetch.settled_unpacking]
    exact .undecodable consulted
  | .ok (some body), consulted =>
    rw [afterLookup, Fetch.settled_ok]
    exact .cached consulted
  | .ok none, consulted => exact .uncached consulted

section Client

variable {events : Journal} (serves : Serves P gives refuses) (holds : P t.client)
  (held : t.stored? kind = s.stored? kind)
  (consulted : s.Consulted force kind events (.ok none))

include serves holds held consulted

theorem progress_ask :
    s.Progress force gives refuses kind ((t.ask now kind).source.stored? kind) events
      ((t.ask now kind).fetch.settled kind).1 := by
  have stored : (t.ask now kind).source.stored? kind = s.stored? kind := held
  rw [stored]
  cases result : (t.client.ask now (.ofKind kind)).result with
  | ok _ =>
    have fetch : (t.ask now kind).fetch = .asked := by simp only [ask, result]
    rw [fetch]
    exact .asked consulted
  | error e =>
    have fetch : (t.ask now kind).fetch = .ended (.error (.request e)) := by
      simp only [ask, result]
    rw [fetch]
    exact .refused consulted ((serves.ask t.client now kind holds).2 e result)

theorem progress_receive (same : t.setup = s.setup) :
    s.Progress force gives refuses kind ((t.receive now kind).source.stored? kind) events
      ((t.receive now kind).fetch.settled kind).1 := by
  have stored : (t.receive now kind).source.stored? kind = s.stored? kind := held
  rw [stored]
  obtain ⟨-, given, refused⟩ := serves.exchange t.client now kind holds
  cases result : (t.client.exchange now (.ofKind kind)).result with
  | error e =>
    have fetch : (t.receive now kind).fetch = .ended (.error (.request e)) := by
      simp only [receive, result]
    rw [fetch]
    exact .refused consulted (refused e result)
  | ok body =>
    by_cases null : body = .null
    · have fetch : (t.receive now kind).fetch = .ended (.ok body) := by
        subst null
        simp only [receive, result]
      rw [fetch, Fetch.settled_ok]
      exact .fetched consulted (given body result) (.skipped (.inl null))
    · cases cache : t.cache with
      | none =>
        have fetch : (t.receive now kind).fetch = .ended (.ok body) := by
          simp only [receive, result, cache]
        have off : s.isConnected = false := by
          rw [← isConnected_eq_of_setup_eq same, isConnected, cache]
          rfl
        rw [fetch, Fetch.settled_ok]
        exact .fetched consulted (given body result) (.skipped (.inr off))
      | some cache =>
        have fetch : (t.receive now kind).fetch = .answered body := by
          simp only [receive, result, cache]
        rw [fetch]
        exact .answered consulted (given body result) null

end Client

theorem progress_keep {events : Journal} {body : Json} (same : t.setup = s.setup)
    (held : t.stored? kind = s.stored? kind)
    (consulted : s.Consulted force kind events (.ok none)) (given : gives kind body)
    (there : body ≠ .null) :
    s.Progress force gives refuses kind ((t.keep kind body).source.stored? kind) events
      ((t.keep kind body).fetch.settled kind).1 := by
  obtain ⟨fetch, kept⟩ | ⟨e, fetch, connected, packing, stored⟩ := t.kept_keep kind there
  · rw [fetch, Fetch.settled_ok]
    exact .fetched consulted given (kept.of_alike same held)
  · rw [fetch, Fetch.settled_packing, stored, held]
    exact .unpackable consulted given (isConnected_eq_of_setup_eq same ▸ connected)
      (nesting_eq_of_setup_eq same ▸ packing)

theorem progress_advance {held : Option Stored} {events : Journal} {f : Fetch}
    (serves : Serves P gives refuses) (same : t.setup = s.setup) (holds : P t.client)
    (now_held : t.stored? kind = held)
    (progress : s.Progress force gives refuses kind held events f) (open_ : f.result? = none) :
    s.Progress force gives refuses kind ((t.advance now force kind f).source.stored? kind)
      (events ++ (t.advance now force kind f).events.lookups kind)
      ((t.advance now force kind f).fetch.settled kind).1 := by
  cases progress with
  | begun => exact progress_lookup same now_held
  | uncached consulted =>
    have silent : (t.advance now force kind .uncached).events.lookups kind = [] :=
      Remote.Client.lookups_ask
    rw [silent, List.append_nil]
    exact progress_ask serves holds now_held consulted
  | asked consulted =>
    have silent : (t.advance now force kind .asked).events.lookups kind = [] :=
      Remote.Client.lookups_exchange
    rw [silent, List.append_nil]
    exact progress_receive serves holds now_held consulted same
  | @answered _ body consulted given there =>
    have silent : (t.advance now force kind (.answered body)).events.lookups kind = [] :=
      lookups_keep
    rw [silent, List.append_nil]
    exact progress_keep same now_held consulted given there
  | cached | undecodable | fetched | unpackable | refused => cases open_

theorem Serves.advance (serves : Serves P gives refuses) (holds : P t.client) (f : Fetch) :
    P (t.advance now force kind f).source.client := by
  cases f with
  | begun => exact (client_lookup (s := t)) ▸ holds
  | uncached => exact (serves.ask t.client now kind holds).1
  | asked => exact (serves.exchange t.client now kind holds).1
  | answered body => exact (client_keep (s := t)) ▸ holds
  | ended result => exact holds

end Progress

end Source

namespace Gathering

/-- All that holds of the fetches of a load on their way, where the source was `s` at first. -/
structure Underway (s : Source) (force : Bool) (P : Remote.Client → Prop)
    (gives : Catalog.Kind → Json → Prop) (refuses : Catalog.Kind → Remote.RequestError → Prop)
    (g : Gathering) : Prop where
  setup : g.source.setup = s.setup
  client : P g.source.client
  progress : ∀ kind, s.Progress force gives refuses kind (g.source.stored? kind)
    (g.events.lookups kind) (g.fetches kind)

variable {s : Source} {force : Bool} {P : Remote.Client → Prop}
  {gives : Catalog.Kind → Json → Prop} {refuses : Catalog.Kind → Remote.RequestError → Prop}
  {g : Gathering}

theorem lookups_settled {kind other : Catalog.Kind} (f : Fetch) :
    (f.settled kind).2.lookups other = [] := by
  cases f with
  | ended result =>
    cases kind with
    | coefficients =>
      cases result with
      | error e =>
        simp only [Fetch.settled, Source.settle]
        split <;> rfl
      | ok body => rfl
    | _ => rfl
  | _ => rfl

theorem lookups_put {kind other : Catalog.Kind} (next : Fetch.Step) :
    (g.put kind next).events.lookups other =
      g.events.lookups other ++ next.events.lookups other := by
  simp only [put, Journal.lookups_append, lookups_settled, List.append_nil]

theorem underway_start (holds : P s.client) : Underway s force P gives refuses (.start s) :=
  ⟨rfl, holds, fun _ => .begun⟩

theorem underway_step (serves : Source.Serves P gives refuses)
    (underway : Underway s force P gives refuses g) (turn : Turn) :
    Underway s force P gives refuses (g.step force turn) := by
  cases open_ : (g.fetches turn.kind).result? with
  | some result =>
    rw [step_ended (Option.isSome_of_eq_some open_)]
    exact underway
  | none =>
    rw [step_open open_]
    constructor
    · exact (Source.setup_advance _).trans underway.setup
    · exact serves.advance underway.client _
    · intro kind
      rw [lookups_put]
      by_cases same : kind = turn.kind
      · subst same
        rw [fetches_put_self]
        exact Source.progress_advance serves underway.setup underway.client rfl
          (underway.progress turn.kind) open_
      · -- The fetch whose turn it is touches nothing that this list's progress speaks of.
        rw [fetches_put_of_ne same, Source.lookups_advance_of_ne same, List.append_nil]
        have stored : (g.source.advance turn.now force turn.kind
            (g.fetches turn.kind)).source.stored? kind = g.source.stored? kind :=
          Source.stored?_advance_of_ne same _
        exact (stored ▸ underway.progress kind :)

theorem underway_run (serves : Source.Serves P gives refuses)
    (underway : Underway s force P gives refuses g) (turns : List Turn) :
    Underway s force P gives refuses (g.run force turns) := by
  induction turns generalizing g with
  | nil => exact underway
  | cons turn rest inductionHypothesis =>
    exact inductionHypothesis (underway_step serves underway turn)

/-- Turns enough, and every fetch has come to its end. -/
theorem exists_ended_run (force : Bool) (serves : Source.Serves P gives refuses)
    (holds : P s.client) {turns : List Turn} (complete : IsComplete turns) (kind : Catalog.Kind) :
    ∃ result, ((start s).run force turns).fetches kind = .ended result ∧
      s.Progress force gives refuses kind (((start s).run force turns).source.stored? kind)
        (((start s).run force turns).events.lookups kind) (.ended result) := by
  have ended : (((start s).run force turns).fetches kind).result?.isSome :=
    isSome_result?_run s complete kind
  obtain ⟨result, result_eq⟩ := Option.isSome_iff_exists.mp ended
  have fetch := Fetch.result?_eq_some_iff.mp result_eq
  have underway : Underway s force P gives refuses ((start s).run force turns) :=
    underway_run serves (underway_start holds) turns
  exact ⟨result, fetch, fetch ▸ underway.progress kind⟩

end Gathering

namespace Source

section Load

variable {s : Source} {force : Bool} {turns : List Turn}

/-- A load that is forced looks nothing up, so what it dropped makes no difference. -/
theorem Consulted.of_forget {kind : Catalog.Kind} {events : Journal}
    {found : Except MessagePack.DecodeError (Option Json)}
    (consulted : (s.forget force).1.Consulted force kind events found) :
    s.Consulted force kind events found := by
  cases force with
  | false => exact forget_unforced s ▸ consulted
  | true =>
    cases consulted with
    | skipped _ => exact .skipped (.inl rfl)
    | refused on | absent on | held on => cases on.1

theorem isSome_loadBy (s : Source) (force : Bool) (complete : Gathering.IsComplete turns) :
    (s.loadBy force turns).isSome := by
  rw [loadBy, Option.isSome_map]
  exact Gathering.isSome_outcome?_run _ complete

/-- A load that has ended gave the lists of all its fetches, or the error of one of them. -/
theorem of_loadBy_eq_some {step : Step Catalog.Data} (loaded : s.loadBy force turns = some step) :
    ∃ g, g = (Gathering.start (s.forget force).1).run force turns ∧ step.source = g.source ∧
      (∀ kind, step.events.lookups kind = g.events.lookups kind) ∧
      ((∃ lists : Catalog.Lists Json, step.result = .ok lists.data ∧
          ∀ kind, g.fetches kind = .ended (.ok (lists kind))) ∨
        ∃ kind e, step.result = .error e ∧ g.fetches kind = .ended (.error e)) := by
  refine ⟨_, rfl, ?_⟩
  have noted : ((Gathering.start (s.forget force).1).run force turns).Noted :=
    Gathering.noted_run (Gathering.noted_start _) turns
  simp only [loadBy] at loaded
  generalize (Gathering.start (s.forget force).1).run force turns = g at loaded noted
  obtain ⟨outcome, outcome_eq, rfl⟩ := Option.map_eq_some_iff.mp loaded
  cases outcome with
  | error e =>
    obtain ⟨kind, ended⟩ := noted.ended e (Gathering.outcome?_eq_error_iff.mp outcome_eq)
    refine ⟨rfl, fun kind => ?_, .inr ⟨kind, e, rfl, ended⟩⟩
    rw [Journal.lookups_append, lookups_forget, List.nil_append]
  | ok lists =>
    refine ⟨rfl, fun kind => ?_,
      .inl ⟨lists, rfl, (Gathering.outcome?_eq_ok_iff.mp outcome_eq).2⟩⟩
    rw [Journal.lookups_append, Journal.lookups_append, lookups_forget, lookups_readEvents,
      List.nil_append, List.append_nil]

end Load

end Source

end Fitout
