import Fitout.Proofs.Source.Freshness

/-!
# A forced load drops the cache and fills it anew

A forced load takes nothing from the cache, so of two such loads whose caches hold and refuse
different things each step comes to the same. Where nothing is refused, the cache is empty at first,
and what a fetch then stores is the body it was given. The central relation says how a fetch, the
body that it was given and what the cache holds for its list belong together.
-/

namespace Fitout

namespace Source

section Forced

variable {s t : Source} {now : Float} {kind : Catalog.Kind} {body : Json}

theorem lookup_forced (s : Source) (kind : Catalog.Kind) :
    s.lookup true kind = ⟨.uncached, s, []⟩ := by
  unfold lookup
  split <;> rfl

/-- What a fetch comes to with an answer that may be cached. -/
def afterAnswer : Except Remote.RequestError Json → Fetch
  | .ok .null => .ended (.ok .null)
  | .ok body => .answered body
  | .error e => .ended (.error (.request e))

/-- What a fetch comes to with a body that is to be cached, by what packing the body comes to. -/
def afterPacking (body : Json) : Except MessagePack.EncodeError Bytes → Fetch
  | .ok _ => .ended (.ok body)
  | .error e => .ended (.error (.packing e))

theorem fetch_receive_of_connected (on : s.isConnected = true) (now : Float)
    (kind : Catalog.Kind) : (s.receive now kind).fetch =
      afterAnswer (s.client.exchange now (.ofKind kind)).result := by
  obtain ⟨cache, there, -⟩ := exists_cache_of_isConnected on
  simp only [receive, there]
  cases (s.client.exchange now (.ofKind kind)).result with
  | error e => rfl
  | ok body => cases body <;> rfl

theorem fetch_keep_of_connected (on : s.isConnected = true) (kind : Catalog.Kind) (body : Json) :
    (s.keep kind body).fetch = afterPacking body (MessagePack.encode s.nesting body) := by
  obtain ⟨cache, there, connected⟩ := exists_cache_of_isConnected on
  have sets := cache.sets_set s.nesting kind.name body
  simp only [keep, there]
  generalize cache.set s.nesting kind.name body = step at sets
  cases sets with
  | off off =>
    rw [connected] at off
    cases off
  | unpackable _ packing =>
    rw [packing]
    rfl
  | refused _ packed | stored _ packed =>
    rw [packed]
    rfl

/-- Two sources with the same client and limit to nesting, and a connected cache each. -/
structure Matches (s t : Source) : Prop where
  client : s.client = t.client
  nesting : s.nesting = t.nesting
  on : s.isConnected = true
  onToo : t.isConnected = true

/-- With a forced load, a fetch comes to the same whatever the cache holds and refuses. -/
theorem Matches.advance (same : s.Matches t) (now : Float) (kind : Catalog.Kind) (f : Fetch) :
    (s.advance now true kind f).fetch = (t.advance now true kind f).fetch ∧
      (s.advance now true kind f).source.Matches (t.advance now true kind f).source := by
  have on : (s.advance now true kind f).source.isConnected = true :=
    (isConnected_eq_of_setup_eq (setup_advance f)).trans same.on
  have onToo : (t.advance now true kind f).source.isConnected = true :=
    (isConnected_eq_of_setup_eq (setup_advance f)).trans same.onToo
  have nesting : (s.advance now true kind f).source.nesting =
      (t.advance now true kind f).source.nesting :=
    (nesting_eq_of_setup_eq (setup_advance f)).trans
      (same.nesting.trans (nesting_eq_of_setup_eq (setup_advance f)).symm)
  cases f with
  | begun =>
    rw [Source.advance, Source.advance, lookup_forced, lookup_forced]
    exact ⟨rfl, same⟩
  | uncached =>
    refine ⟨?_, ?_, nesting, on, onToo⟩
    · simp only [Source.advance, ask, same.client]
    · simp only [Source.advance, ask, same.client]
  | asked =>
    refine ⟨?_, ?_, nesting, on, onToo⟩
    · simp only [Source.advance, fetch_receive_of_connected same.on,
        fetch_receive_of_connected same.onToo, same.client]
    · simp only [Source.advance, receive, same.client]
  | answered body =>
    refine ⟨?_, ?_, nesting, on, onToo⟩
    · simp only [Source.advance, fetch_keep_of_connected same.on,
        fetch_keep_of_connected same.onToo, same.nesting]
    · simp only [Source.advance, client_keep, same.client]
  | ended result => exact ⟨rfl, same⟩

theorem Matches.forget (same : s.Matches t) : (s.forget true).1.Matches (t.forget true).1 where
  client := (client_forget s true).trans (same.client.trans (client_forget t true).symm)
  nesting := (nesting_forget s true).trans (same.nesting.trans (nesting_forget t true).symm)
  on := (isConnected_eq_of_setup_eq (setup_forget s true)).trans same.on
  onToo := (isConnected_eq_of_setup_eq (setup_forget t true)).trans same.onToo

end Forced

end Source

namespace Gathering

/-- Two loads on their way that have come equally far. -/
structure Matches (g h : Gathering) : Prop where
  source : g.source.Matches h.source
  fetches : g.fetches = h.fetches
  failure : g.failure = h.failure

namespace Matches

variable {g h : Gathering}

theorem step (same : g.Matches h) (turn : Turn) :
    (g.step true turn).Matches (h.step true turn) := by
  cases open_ : (g.fetches turn.kind).result? with
  | some result =>
    rw [step_ended (Option.isSome_of_eq_some open_),
      step_ended (Option.isSome_of_eq_some (same.fetches ▸ open_))]
    exact same
  | none =>
    rw [step_open open_, step_open (same.fetches ▸ open_), ← same.fetches]
    obtain ⟨fetch, source⟩ := same.source.advance turn.now turn.kind (g.fetches turn.kind)
    constructor
    · exact source
    · funext kind
      simp only [put]
      rw [fetch, same.fetches]
    · simp only [put, fetch, same.failure]

theorem run (same : g.Matches h) (turns : List Turn) :
    (g.run true turns).Matches (h.run true turns) := by
  induction turns generalizing g h with
  | nil => exact same
  | cons turn rest inductionHypothesis => exact inductionHypothesis (same.step turn)

theorem outcome?_eq (same : g.Matches h) : g.outcome? = h.outcome? := by
  simp only [outcome?, same.fetches, same.failure]

end Matches

end Gathering

namespace Source

variable {s t : Source} {turns : List Turn}

/-- What depends on the result and the client alone is known from the fetches. -/
theorem map_loadBy {α : Type} (f : Except LoadError Catalog.Data → Remote.Client → α) (s : Source)
    (force : Bool) (turns : List Turn) :
    let g := (Gathering.start (s.forget force).1).run force turns
    (s.loadBy force turns).map (fun step => f step.result step.source.client) =
      g.outcome?.map fun outcome => f (outcome.map Catalog.Lists.data) g.source.client := by
  intro g
  rw [loadBy, Option.map_map]
  congr 1
  funext outcome
  cases outcome <;> rfl

/-- Two forced loads give the same and leave the same client, whatever the caches hold and
refuse. -/
theorem Matches.loadBy {α : Type} (f : Except LoadError Catalog.Data → Remote.Client → α)
    (same : s.Matches t) (turns : List Turn) :
    (s.loadBy true turns).map (fun step => f step.result step.source.client) =
      (t.loadBy true turns).map fun step => f step.result step.source.client := by
  have started : (Gathering.start (s.forget true).1).Matches (.start (t.forget true).1) :=
    ⟨same.forget, rfl, rfl⟩
  have ran := started.run turns
  rw [map_loadBy, map_loadBy, ran.outcome?_eq, ran.source.client]

/-- For how long the cache stores a body. -/
def ttl? (s : Source) : Option Int :=
  s.cache.map (·.ttl)

/-- The body that the server gives to the next step of a fetch, if that step gets one. -/
def answer? (s : Source) (now : Float) (kind : Catalog.Kind) : Fetch → Option Json
  | .asked => (s.client.exchange now (.ofKind kind)).result.toOption
  | .begun | .uncached | .answered _ | .ended _ => none

section Entries

variable {s t : Source} {now : Float} {kind : Catalog.Kind} {body : Json}

theorem ttl?_eq_of_setup_eq (same : t.setup = s.setup) : t.ttl? = s.ttl? := by
  have kept (s : Source) : s.setup.ttl? = s.ttl? := by
    cases cache : s.cache <;> simp only [ttl?, setup, cache] <;> rfl
  rw [← kept, same, kept]

/-- Where no command is refused, a body that can be packed is stored. -/
theorem stored?_keep_of_packed (cached : s.IsCached) {bytes : Bytes}
    (packed : MessagePack.encode s.nesting body = .ok bytes) :
    (s.keep kind body).source.stored? kind = some ⟨s.ttl?, bytes⟩ := by
  obtain ⟨cache, there, connected⟩ := exists_cache_of_isConnected cached.connected
  have takes (number : Nat) : cache.server.refusal number = none :=
    refusal?_of_cache_eq_some there ▸ cached.takes number
  simp only [keep, there, Cache.set, connected, packed, KeyValueServer.send, takes, stored?, ttl?]
  exact Json.lookup_setMember_self

end Entries

/-- What a forced load leaves in the cache for a list, by the body that it was given and the one
that it went on with. -/
inductive Refilled (nesting : Option Nat) (ttl : Option Int) (kind : Catalog.Kind) :
    Option Json → Json → Option Stored → Prop where
  | kept {body : Json} {bytes : Bytes} (there : body ≠ .null)
      (packed : MessagePack.encode nesting body = .ok bytes) :
      Refilled nesting ttl kind (some body) body (some ⟨ttl, bytes⟩)
  | null : Refilled nesting ttl kind (some .null) .null none
  | missing (own : kind = .coefficients) : Refilled nesting ttl kind none (.list []) none

/-- How far a fetch of a forced load has come, with the body that it was given and what the cache
holds for its list. -/
inductive Refilling (nesting : Option Nat) (ttl : Option Int) (kind : Catalog.Kind) :
    Option Json → Fetch → Option Stored → Prop where
  | begun : Refilling nesting ttl kind none .begun none
  | uncached : Refilling nesting ttl kind none .uncached none
  | asked : Refilling nesting ttl kind none .asked none
  | answered {body : Json} (there : body ≠ .null) :
      Refilling nesting ttl kind (some body) (.answered body) none
  | ended {given : Option Json} {body : Json} {held : Option Stored}
      (refilled : Refilled nesting ttl kind given body held) :
      Refilling nesting ttl kind given (.ended (.ok body)) held
  | failed {given : Option Json} {e : LoadError} {held : Option Stored} :
      Refilling nesting ttl kind given (.ended (.error e)) held

namespace Refilling

variable {s : Source} {nesting : Option Nat} {ttl : Option Int} {kind : Catalog.Kind}
  {given : Option Json} {f : Fetch}

theorem refilled {body : Json} {held : Option Stored}
    (refilling : Refilling nesting ttl kind given (.ended (.ok body)) held) :
    Refilled nesting ttl kind given body held := by
  cases refilling with
  | ended refilled => exact refilled

/-- A fetch that was given nothing ends with an error, unless it is the one that may do without. -/
theorem settled_error (e : LoadError) :
    Refilling nesting ttl kind none ((Fetch.ended (.error e)).settled kind).1 none := by
  cases kind with
  | coefficients =>
    simp only [Fetch.settled, settle]
    split
    · exact .ended (.missing rfl)
    · exact .failed
  | categories | products | services | presets => exact .failed

theorem ask (empty : s.stored? kind = none) (now : Float) :
    Refilling nesting ttl kind none ((s.ask now kind).fetch.settled kind).1
      ((s.ask now kind).source.stored? kind) := by
  have held : (s.ask now kind).source.stored? kind = none := empty
  rw [held]
  obtain asked | ⟨e, ended⟩ := s.fetch_ask now kind
  · rw [asked]
    exact .asked
  · rw [ended]
    exact settled_error e

theorem receive (on : s.isConnected = true) (empty : s.stored? kind = none) (now : Float) :
    Refilling nesting ttl kind (s.answer? now kind .asked)
      ((s.receive now kind).fetch.settled kind).1 ((s.receive now kind).source.stored? kind) := by
  have held : (s.receive now kind).source.stored? kind = none := empty
  rw [held, fetch_receive_of_connected on, answer?]
  cases (s.client.exchange now (.ofKind kind)).result with
  | error e => exact settled_error (.request e)
  | ok body =>
    by_cases null : body = .null
    · subst null
      rw [afterAnswer, Fetch.settled_ok]
      exact .ended .null
    · have next : afterAnswer (.ok body) = .answered body := by
        cases body with
        | null => exact absurd rfl null
        | _ => rfl
      rw [next]
      exact .answered null

theorem keep (cached : s.IsCached) {body : Json} (there : body ≠ .null) :
    Refilling s.nesting s.ttl? kind (some body) ((s.keep kind body).fetch.settled kind).1
      ((s.keep kind body).source.stored? kind) := by
  rw [fetch_keep_of_connected cached.connected]
  cases packed : MessagePack.encode s.nesting body with
  | error e =>
    rw [afterPacking, Fetch.settled_packing]
    exact .failed
  | ok bytes =>
    rw [afterPacking, Fetch.settled_ok, stored?_keep_of_packed cached packed]
    exact .ended (.kept there packed)

/-- The next step of a fetch keeps the relation, with the answer that the step gets. -/
theorem advance (cached : s.IsCached) (now : Float) (open_ : f.result? = none)
    (refilling : Refilling s.nesting s.ttl? kind given f (s.stored? kind)) :
    Refilling s.nesting s.ttl? kind (given.or (s.answer? now kind f))
      ((s.advance now true kind f).fetch.settled kind).1
      ((s.advance now true kind f).source.stored? kind) := by
  generalize held : s.stored? kind = stored at refilling
  cases refilling with
  | begun =>
    rw [Source.advance, lookup_forced, held]
    exact .uncached
  | uncached => exact ask held now
  | asked => exact receive cached.connected held now
  | answered there => exact keep cached there
  | ended | failed => cases open_

end Refilling

end Source

namespace Gathering

open Catalog (Kind)

/-- The body that the server gives for a list on a turn, if this is the turn on which it does. -/
def answer? (g : Gathering) (turn : Turn) (kind : Kind) : Option Json :=
  if turn.kind = kind then g.source.answer? turn.now kind (g.fetches kind) else none

/-- The body that the server gives for a list in the course of a forced load. -/
def given? (g : Gathering) (kind : Kind) : List Turn → Option Json
  | [] => none
  | turn :: rest => (g.answer? turn kind).or ((g.step true turn).given? kind rest)

/-- All that holds of a forced load on its way, over a cache that refuses nothing and was
dropped. -/
structure Refills (s : Source) (given : Catalog.Lists (Option Json)) (g : Gathering) : Prop where
  setup : g.source.setup = s.setup
  lists : ∀ kind,
    Source.Refilling s.nesting s.ttl? kind (given kind) (g.fetches kind) (g.source.stored? kind)
  others : ∀ key, key.startsWith Cache.keyStart = true →
    (∀ kind : Kind, key ≠ Cache.key kind.name) → g.source.held? key = none

namespace Refills

variable {s : Source} {given : Catalog.Lists (Option Json)} {g : Gathering}

theorem step (cached : s.IsCached) (refills : Refills s given g) (turn : Turn) :
    Refills s (fun kind => (given kind).or (g.answer? turn kind)) (g.step true turn) := by
  cases open_ : (g.fetches turn.kind).result? with
  | some result =>
    have ended := Fetch.result?_eq_some_iff.mp open_
    have silent (kind : Kind) : g.answer? turn kind = none := by
      rw [answer?]
      split
      · rename_i same
        rw [← same, ended]
        rfl
      · rfl
    rw [step_ended (Option.isSome_of_eq_some open_)]
    simp only [silent, Option.or_none]
    exact refills
  | none =>
    rw [step_open open_]
    constructor
    · exact (Source.setup_advance _).trans refills.setup
    · intro kind
      by_cases same : kind = turn.kind
      · subst same
        have cachedStill : g.source.IsCached := cached.of_setup_eq refills.setup
        have ttl := Source.ttl?_eq_of_setup_eq refills.setup
        have nesting := Source.nesting_eq_of_setup_eq refills.setup
        rw [fetches_put_self, answer?, if_pos rfl, ← ttl, ← nesting]
        exact .advance cachedStill turn.now open_ (nesting ▸ ttl ▸ refills.lists turn.kind)
      · have stored : (g.source.advance turn.now true turn.kind
            (g.fetches turn.kind)).source.stored? kind = g.source.stored? kind :=
          Source.stored?_advance_of_ne same _
        rw [fetches_put_of_ne same, answer?, if_neg (Ne.symm same), Option.or_none]
        exact (stored ▸ refills.lists kind :)
    · intro key starts other
      exact (Source.held?_advance_of_ne (other turn.kind) _).trans
        (refills.others key starts other)

theorem run (cached : s.IsCached) (refills : Refills s given g) (turns : List Turn) :
    Refills s (fun kind => (given kind).or (g.given? kind turns)) (g.run true turns) := by
  induction turns generalizing g given with
  | nil =>
    simp only [given?, Option.or_none]
    exact refills
  | cons turn rest inductionHypothesis =>
    have later := inductionHypothesis (refills.step cached turn)
    simp only [Option.or_assoc] at later
    exact later

/-- A cache that was dropped holds nothing of a catalog. -/
theorem start (cached : s.IsCached) :
    Refills s (fun _ => none) (.start (s.forget true).1) where
  setup := Source.setup_forget s true
  lists kind := by
    have empty : (s.forget true).1.stored? kind = none :=
      Source.stored?_forget_forced cached.connected cached.takes kind
    have nothing : Source.Refilling s.nesting s.ttl? kind none .begun none := .begun
    exact (empty ▸ nothing :)
  others _ starts _ := Source.held?_forget_forced cached.connected cached.takes starts

end Refills

end Gathering

namespace Source

/-- A forced load gives the same, and leaves the same client, whatever a connected cache holds and
refuses. Where it succeeds and nothing was refused, each list is held as the body that the load was
given for it, and nothing else of a catalog is held: nothing for a null body, nothing for missing
coefficients, and nothing from before. -/
theorem forced_load_refills_cache (client : Remote.Client) (c d : Cache) (nesting : Option Nat)
    (turns : List Turn) (on : c.connected = true) (onToo : d.connected = true) :
    let s : Source := ⟨client, some c, nesting⟩
    let t : Source := ⟨client, some d, nesting⟩
    let started := Gathering.start (s.forget true).1
    (s.loadBy true turns).map (·.result) = (t.loadBy true turns).map (·.result) ∧
    (s.loadBy true turns).map (·.source.client) = (t.loadBy true turns).map (·.source.client) ∧
    (Gathering.IsComplete turns → (s.loadBy true turns).isSome) ∧
    ∀ step data, s.loadBy true turns = some step → step.result = .ok data →
      (∀ number, c.server.refusal number = none) →
      ∃ lists : Catalog.Lists Json, data = lists.data ∧
        (∀ kind, Refilled nesting (some c.ttl) kind (started.given? kind turns) (lists kind)
          (step.source.held? (Cache.key kind.name))) ∧
        ∀ key, key.startsWith Cache.keyStart = true →
          (∀ kind : Catalog.Kind, key ≠ Cache.key kind.name) →
          step.source.held? key = none := by
  intro s t started
  have same : s.Matches t := ⟨rfl, rfl, on, onToo⟩
  refine ⟨same.loadBy (fun result _ => result) turns, same.loadBy (fun _ client => client) turns,
    s.isSome_loadBy true, ?_⟩
  intro step data loaded result takes
  have cached : s.IsCached := ⟨on, takes⟩
  have refills := (Gathering.Refills.start cached).run cached turns
  obtain ⟨g, g_eq, source, -, outcome⟩ := of_loadBy_eq_some loaded
  rw [← g_eq] at refills
  rw [source]
  obtain ⟨lists, given, ended⟩ | ⟨kind, e, failed, -⟩ := outcome
  · refine ⟨lists, Except.ok.inj (result.symm.trans given), ?_, refills.others⟩
    intro kind
    have refilling := refills.lists kind
    rw [ended kind] at refilling
    exact refilling.refilled
  · cases result.symm.trans failed

/-- One cache holds bytes that no one can read and a list that is no longer there; the other refuses
all commands. -/
theorem old_lists_are_gone :
    let entries : List (String × Stored) :=
      [("catalog:categories", ⟨none, [0xC1]⟩), ("catalog:attic", ⟨none, [0x90]⟩)]
    let s := ofContent emptyContent entries fun _ => none
    let t := ofContent emptyContent [] fun _ => some "down"
    let turns := inOrder 0 Catalog.Kind.all
    ∃ step data, s.loadBy true turns = some step ∧ step.result = .ok data ∧
      (t.loadBy true turns).map (·.result) = some (.ok data) ∧
      step.source.held? "catalog:attic" = none := by
  intro entries s t turns
  have served : s.client.IsServed := isServed_ofContent readBody_emptyContent
  obtain ⟨step, found, bodies, loaded, -, -, -, -, returns⟩ :=
    load_returns_unless_unreadable s true turns served (isComplete_inOrder 0)
  obtain ⟨data, result⟩ := returns (fun unforced => by cases unforced) fun _ kind body given => by
    rw [Except.ok.inj ((readBody_of_gives_ofContent given).symm.trans readBody_emptyContent)]
    exact MessagePack.exists_encode_iff.mp ⟨[0x90], rfl⟩
  obtain ⟨same, -, -, refilled⟩ := forced_load_refills_cache s.client
    ⟨"redis://cache", Cache.defaultTtl, ⟨entries, 0, fun _ => none⟩, true, 0⟩
    ⟨"redis://cache", Cache.defaultTtl, ⟨[], 0, fun _ => some "down"⟩, true, 0⟩ s.nesting turns
    rfl rfl
  obtain ⟨lists, -, -, others⟩ := refilled step data loaded result fun _ => rfl
  refine ⟨step, data, loaded, result, ?_, others "catalog:attic" (by decide +kernel) ?_⟩
  · have both : (s.loadBy true turns).map (·.result) = (t.loadBy true turns).map (·.result) := same
    rw [← both, loaded, Option.map_some, result]
  · intro kind
    cases kind <;> decide

end Source

end Fitout
