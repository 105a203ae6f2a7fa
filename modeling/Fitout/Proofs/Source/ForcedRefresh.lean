import Fitout.Proofs.Source.Freshness

/-!
# What a forced refresh keeps out

After a forced refresh has returned, what is installed was answered since it started, unless a load
had it in hand at that start. Such a body is cached whenever its fetch goes on, however many lists
have been installed since. The next refresh that is not forced finds it there and installs it, over
the lists of the forced refresh.
-/

namespace Fitout

/-- A body that comes back from a cache, where the packer limits the nesting or does not. -/
structure Json.IsStorable (body : Json) (nesting : Option Nat) : Prop where
  there : body ≠ .null
  shaped : body.Shaped depthLimit
  packs : ∃ bytes, MessagePack.encode nesting body = .ok bytes

namespace Source

variable {s : Source} {turns : List Turn}

/-- What is held for a list reads as a body. -/
def Holds (s : Source) (kind : Catalog.Kind) (body : Json) : Prop :=
  ∃ stored, s.stored? kind = some stored ∧ stored.body? = .ok (some body)

/-- A forced load installs what it is given, and caches it. -/
theorem holds_forced {P : Remote.Client → Prop} {gives : Catalog.Kind → Json → Prop}
    (cached : s.IsCached) (serves : Serves P gives fun _ _ => False) (ready : P s.client)
    (storable : ∀ kind body, gives kind body → body.IsStorable s.nesting)
    (complete : Gathering.IsComplete turns) :
    let g := (Gathering.start (s.forget true).1).run true turns
    ∃ lists : Catalog.Lists Json, g.outcome? = some (.ok lists) ∧
      ∀ kind, gives kind (lists kind) ∧ g.source.Holds kind (lists kind).packed := by
  intro g
  have forgotten : (s.forget true).1.IsCached := cached.of_setup_eq (setup_forget s true)
  have each (kind : Catalog.Kind) : ∃ body, g.fetches kind = .ended (.ok body) ∧
      gives kind body ∧ g.source.Holds kind body.packed := by
    obtain ⟨result, fetch, progress⟩ := Gathering.exists_ended_run true serves
      ((client_forget s true).symm ▸ ready) complete kind
    have empty := stored?_forget_forced cached.connected cached.takes kind
    have fits (body : Json) (given : gives kind body) :
        body.IsStorable (s.forget true).1.nesting :=
      nesting_forget s true ▸ storable kind body given
    obtain ⟨held, body, rfl⟩ := filled_of_progress forgotten empty
      (fun body given => ⟨(fits body given).there, (fits body given).packs⟩) progress
    obtain ⟨stored, held⟩ := Option.isSome_iff_exists.mp held
    obtain ⟨given, there, packed⟩ := packed_of_progress empty progress held
    exact ⟨body, fetch, given, stored, held,
      Stored.body?_eq_packed there (storable kind body given).shaped packed⟩
  choose lists ended given holds using each
  exact ⟨lists, Gathering.outcome?_run_of_ended ended, fun kind => ⟨given kind, holds kind⟩⟩

/-- A load that is not forced takes what is held. -/
theorem outcome?_of_holds {lists : Catalog.Lists Json} (cached : s.IsCached)
    (complete : Gathering.IsComplete turns) (holds : ∀ kind, s.Holds kind (lists kind)) :
    ((Gathering.start (s.forget false).1).run false turns).outcome? = some (.ok lists) := by
  rw [forget_unforced]
  refine Gathering.outcome?_run_of_ended fun kind => ?_
  obtain ⟨stored, held, read⟩ := holds kind
  obtain ⟨result, fetch, progress⟩ :=
    Gathering.exists_ended_run false serves_anything trivial complete kind
  obtain ⟨-, rfl⟩ := cached_of_progress cached held read progress
  exact fetch

/-- A body that is kept is held from then on. -/
theorem holds_keep {kind : Catalog.Kind} {body : Json} (cached : s.IsCached)
    (storable : body.IsStorable s.nesting) : (s.keep kind body).source.Holds kind body.packed := by
  obtain ⟨bytes, packs⟩ := storable.packs
  obtain ⟨-, kept⟩ | ⟨e, -, -, packing, -⟩ := s.kept_keep kind storable.there
  · generalize now : (s.keep kind body).source.stored? kind = held at kept
    cases kept with
    | skipped off =>
      obtain null | off := off
      · exact absurd null storable.there
      · rw [cached.connected] at off
        cases off
    | refused _ refused =>
      rw [cached.takes] at refused
      cases refused
    | @stored stored there packed =>
      exact ⟨stored, now, Stored.body?_eq_packed there storable.shaped packed⟩
  · rw [packs] at packing
    cases packing

end Source

namespace Overlap

open Catalog

section Overtaking

variable {c : Overlap} {kind : Kind} {turns : List Turn}

/-- A refresh that has returned stays answered as it was. -/
theorem returned_step {number : Nat} {snapshot : Snapshot} (action : Action)
    (returned : c.refreshes.call? number = some (.returned snapshot)) :
    (c.step action).refreshes.call? number = some (.returned snapshot) := by
  cases number with
  | zero => cases returned
  | succ index =>
    change c.refreshes.calls[index]? = some _ at returned
    have effect := c.effect_step action
    generalize c.step action = d at effect
    cases effect with
    | idle | forgot | turned | expired => exact returned
    | started force =>
      have bound := (List.getElem?_eq_some_iff.mp returned).1
      exact (List.getElem?_append_left bound).trans returned
    | @finished place load ticket outcome there waiting ended =>
      have other : place ≠ index := by
        rintro rfl
        cases waiting.symm.trans returned
      have kept (call : Refresh LoadError) :
          (c.refreshes.calls.set place call)[index]? = some (.returned snapshot) :=
        (List.getElem?_set_ne other).trans returned
      cases outcome with
      | ok lists =>
        obtain ⟨now, -, -, finished⟩ :=
          Refreshes.step_finish_ok LoadError.message waiting lists.data
        exact (congrArg (Refreshes.call? · (index + 1)) finished).trans (kept _)
      | error e =>
        have finished := Refreshes.step_finish_error LoadError.message waiting e
        exact (congrArg (Refreshes.call? · (index + 1)) finished).trans (kept _)

theorem returned_run {number : Nat} {snapshot : Snapshot} (actions : List Action)
    (returned : c.refreshes.call? number = some (.returned snapshot)) :
    (c.run actions).refreshes.call? number = some (.returned snapshot) := by
  induction actions generalizing c with
  | nil => exact returned
  | cons action rest inductionHypothesis =>
    exact inductionHypothesis (returned_step action returned)

theorem length_loads_turn (place : Nat) (turn : Turn) :
    (c.step (.turn place turn)).loads.length = c.loads.length := by
  have effect := c.effect_step (.turn place turn)
  generalize c.step (.turn place turn) = d at effect
  cases effect with
  | idle => rfl
  | turned => exact List.length_set

/-- A load that goes on with a body in hand caches it. -/
theorem step_inHand {place : Nat} {load : Loading} {body : Json} {turn : Turn}
    (there : c.loads[place]? = some load) (set : load.isForgetting = false)
    (inHand : load.fetches turn.kind = .answered body) :
    (c.step (.turn place turn)).source = (c.source.keep turn.kind body).source := by
  have open_ : (load.fetches turn.kind).result? = none := by rw [inHand]; rfl
  have step := run_turns there set [turn]
  have first : (load.gathering c.source).run load.force [turn] =
      (load.gathering c.source).put turn.kind
        (c.source.advance turn.now load.force turn.kind (load.fetches turn.kind)) :=
    Gathering.step_open open_
  rw [first, inHand] at step
  exact congrArg Overlap.source step

/-- The lists of a forced refresh with one body in place of its list. -/
def overtaken (lists : Catalog.Lists Json) (kind : Kind) (body : Json) : Catalog.Lists Json :=
  fun other => if other = kind then body.packed else (lists other).packed

/-- A body in hand, whatever load has it, replaces what a forced refresh installs. -/
theorem body_in_hand_overtakes {P : Remote.Client → Prop} {gives : Kind → Json → Prop}
    {place : Nat} {load : Loading} {body : Json} (now : Float) (ticketed : c.Ticketed)
    (cached : c.source.IsCached) (serves : Source.Serves P gives fun _ _ => False)
    (ready : P c.source.client)
    (storable : ∀ kind body, gives kind body → body.IsStorable c.source.nesting)
    (there : c.loads[place]? = some load) (set : load.isForgetting = false)
    (inHand : load.fetches kind = .answered body) (keeps : body.IsStorable c.source.nesting)
    (complete : Gathering.IsComplete turns) :
    let n := c.loads.length
    let refreshed := c.run (inARow n true turns)
    let final := refreshed.run (.turn place ⟨kind, now⟩ :: inARow (n + 1) false turns)
    ∃ lists : Catalog.Lists Json, (∀ kind, gives kind (lists kind)) ∧
      refreshed.refreshes.call? (n + 1) = some (.returned (.build (n + 1) lists.data)) ∧
      refreshed.refreshes.store.installed = some (.build (n + 1) lists.data) ∧
      final.refreshes.store.installed =
        some (.build (n + 2) (overtaken lists kind body).data) := by
  intro n refreshed final
  obtain ⟨lists, outcome, known⟩ := Source.holds_forced cached serves ready storable complete
  obtain ⟨installed, returned⟩ := installed_inARow ticketed outcome
  refine ⟨lists, fun kind => (known kind).1, returned, installed, ?_⟩
  have whole : refreshed = _ := run_inARow ticketed outcome
  have thereStill : refreshed.loads[place]? = some load := by
    rw [whole]
    exact (List.getElem?_append_left (List.getElem?_eq_some_iff.mp there).1).trans there
  have holds (kind : Kind) : refreshed.source.Holds kind (lists kind).packed := by
    rw [whole]
    exact (known kind).2
  let written := refreshed.step (.turn place ⟨kind, now⟩)
  have source : written.source = (refreshed.source.keep kind body).source :=
    step_inHand thereStill set inHand
  have cachedAfter : refreshed.source.IsCached := cached.of_setup_eq (setup_run c _)
  have holdsAfter (other : Kind) :
      written.source.Holds other (overtaken lists kind body other) := by
    rw [source, overtaken]
    split
    · rename_i same
      rw [same]
      have nesting : refreshed.source.nesting = c.source.nesting :=
        Source.nesting_eq_of_setup_eq (setup_run c _)
      exact Source.holds_keep cachedAfter (nesting ▸ keeps)
    · rename_i ne
      obtain ⟨stored, held, read⟩ := holds other
      exact ⟨stored, (Source.stored?_keep_of_ne ne).trans held, read⟩
  have length : written.loads.length = n + 1 := by
    rw [length_loads_turn, whole]
    exact List.length_append
  have outcome := Source.outcome?_of_holds (cachedAfter.of_setup_eq (setup_step refreshed _))
    complete holdsAfter
  obtain ⟨last, -⟩ := installed_inARow ((ticketed.run _).step (.turn place ⟨kind, now⟩)) outcome
  have ticket : (written.loads.length : Int) + 1 = n + 2 := by omega
  change (written.run (inARow (n + 1) false turns)).refreshes.store.installed = _
  rw [← length, ← ticket]
  exact last

end Overtaking

section Served

variable {c : Overlap} {P : Remote.Client → Prop} {gives : Kind → Json → Prop}
  {refuses : Kind → Remote.RequestError → Prop}

theorem serves_step (serves : Source.Serves P gives refuses) (holds : P c.source.client)
    (action : Action) : P (c.step action).source.client := by
  have effect := c.effect_step action
  generalize c.step action = d at effect
  cases effect with
  | idle | started | finished | expired => exact holds
  | forgot => exact (Source.client_forget c.source _).symm ▸ holds
  | turned => exact serves.advance holds _

theorem gives_of_answered? (serves : Source.Serves P gives refuses) (holds : P c.source.client)
    {action : Action} {answer : Kind × Json} (answered : c.answered? action = some answer) :
    gives answer.1 answer.2 := by
  cases action with
  | turn place turn =>
    obtain ⟨load, -, answered⟩ := Option.bind_eq_some_iff.mp answered
    split at answered
    · obtain ⟨body, given, rfl⟩ := Option.map_eq_some_iff.mp answered
      refine (serves.exchange c.source.client turn.now turn.kind holds).2.1 body ?_
      cases result : (c.source.client.exchange turn.now (.ofKind turn.kind)).result with
      | ok other =>
        rw [result] at given
        exact congrArg _ (Option.some.inj given)
      | error e =>
        rw [result] at given
        cases given
    · cases answered
  | start | forget | finish | expire => cases answered

/-- What is observed is what the server is known to give. -/
theorem gives_of_observed (serves : Source.Serves P gives refuses) (actions : List Action)
    {c : Overlap} (holds : P c.source.client) {answer : Kind × Json}
    (observed : answer ∈ observed answered? c actions) : gives answer.1 answer.2 := by
  induction actions generalizing c with
  | nil => cases observed
  | cons action rest inductionHypothesis =>
    obtain now | later := List.mem_append.mp observed
    · exact gives_of_answered? serves holds (Option.mem_toList.mp now)
    · exact inductionHypothesis (serves_step serves holds action) later

end Served

section Change

/-- A server that answers its first request with one content and all later ones with another, behind
an empty cache. -/
def ofChange (first later : Bytes) : Source where
  client := .ofRule fun received _ => .answered 200 (if received.isEmpty then first else later)
  cache := some ⟨"redis://cache", Cache.defaultTtl, .empty, true, 0⟩
  nesting := some MessagePack.usualNesting

variable {first later : Bytes} {body : Json}

/-- The server that changes has been asked before. -/
def IsLater (first later : Bytes) (d : Remote.Client) : Prop :=
  (ofChange first later).client.Alike d ∧ d.server.received ≠ []

theorem writable_ofChange (kind : Kind) :
    (ofChange first later).client.writeError? (.ofKind kind) = none := by
  cases kind <;> rfl

/-- What the server that changes answers next. -/
theorem exchange_ofChange {d : Remote.Client} {content : Bytes} (now : Float) (kind : Kind)
    (alike : (ofChange first later).client.Alike d)
    (next : (if d.server.received.isEmpty then first else later) = content)
    (read : Json.readBody content = .ok body) :
    IsLater first later (d.exchange now (.ofKind kind)).client ∧
      (d.exchange now (.ofKind kind)).result = .ok body := by
  obtain ⟨after, given⟩ := alike.exchange now (writable_ofChange kind)
    (Remote.Client.showsScheme_ofRule _ _) (congrArg (Remote.Reply.answered 200) next)
    (by decide) read
  have writable : d.writeError? (.ofKind kind) = none :=
    (Remote.Client.congr_of_setup_eq alike.setup (·.writeError? (.ofKind kind))
      fun _ => rfl).trans (writable_ofChange kind)
  exact ⟨⟨after, Remote.Client.received_exchange now writable⟩, given⟩

theorem serves_ofChange (read : Json.readBody later = .ok body) :
    Source.Serves (IsLater first later) (fun _ given => given = body) fun _ _ => False where
  ask d now kind holds := by
    obtain ⟨after, admitted⟩ := holds.1.ask now (.ofKind kind)
    refine ⟨⟨after, Remote.Client.server_ask.symm ▸ holds.2⟩, fun e rejected => ?_⟩
    rw [admitted] at rejected
    cases rejected
  exchange d now kind holds := by
    have next : (if d.server.received.isEmpty then first else later) = later :=
      if_neg fun empty => holds.2 (List.isEmpty_iff.mp empty)
    obtain ⟨after, given⟩ := exchange_ofChange now kind holds.1 next read
    refine ⟨after, fun other same => ?_, fun e failed => ?_⟩
    · exact Except.ok.inj (same.symm.trans given)
    · rw [given] at failed
      cases failed

/-- The first load has the answer for a list in hand. -/
def inHand : List Action :=
  .start false :: List.replicate 3 (.turn 0 ⟨.categories, 0⟩)

theorem run_inHand (later : Bytes) (read : Json.readBody first = .ok body)
    (there : body ≠ .null) :
    let c := (begin (ofChange first later)).run inHand
    IsLater first later c.source.client ∧ c.loads.length = 1 ∧
      ∃ load, c.loads[0]? = some load ∧ load.isForgetting = false ∧
        load.fetches .categories = .answered body := by
  intro c
  let s := ofChange first later
  let turns : List Turn := List.replicate 3 ⟨.categories, 0⟩
  let g := (Gathering.start s).run false turns
  let asked := (Gathering.start s).run false (List.replicate 2 ⟨.categories, 0⟩)
  have begun : [Loading.start false][0]? = some (.start false) := rfl
  have run : c = ⟨g.source, Refreshes.empty.start, [(Loading.start false).takeUp g]⟩ :=
    run_turns (c := ⟨s, Refreshes.empty.start, [.start false]⟩) begun rfl turns
  have alike : (ofChange first later).client.Alike asked.source.client := ⟨rfl, rfl⟩
  obtain ⟨after, given⟩ := exchange_ofChange 0 .categories alike rfl read
  have cached : asked.source.cache =
      some ⟨"redis://cache", Cache.defaultTtl, KeyValueServer.empty.send.1, true, 0⟩ := rfl
  have answered : (asked.source.receive 0 .categories).fetch = .answered body := by
    simp only [Source.receive, given, cached]
  have open_ : (asked.fetches (Turn.mk .categories 0).kind).result? = none := rfl
  have last : g = asked.put .categories (asked.source.receive 0 .categories) :=
    Gathering.step_open open_
  rw [run]
  refine ⟨?_, rfl, _, rfl, rfl, ?_⟩
  · rw [last]
    exact after
  · change g.fetches .categories = _
    rw [last, Gathering.fetches_put_self, answered]
    rfl

/-- The first load caches what it has in hand, and a refresh follows that is not forced. -/
def lateWrite (turns : List Turn) : List Action :=
  .turn 0 ⟨.categories, 0⟩ :: inARow 2 false turns

/-- The body in hand replaces what the forced refresh was given. -/
theorem overtakes_ofChange {fresh : Json} {turns : List Turn}
    (readFirst : Json.readBody first = .ok body)
    (old : body.IsStorable (ofChange first later).nesting)
    (readLater : Json.readBody later = .ok fresh)
    (new : fresh.IsStorable (ofChange first later).nesting)
    (complete : Gathering.IsComplete turns) :
    let refreshed := ((begin (ofChange first later)).run inHand).run (inARow 1 true turns)
    let final := refreshed.run (lateWrite turns)
    refreshed.refreshes.call? 2 =
        some (.returned (.build 2 (Catalog.Lists.data fun _ => fresh))) ∧
      refreshed.refreshes.store.installed =
        some (.build 2 (Catalog.Lists.data fun _ => fresh)) ∧
      final.refreshes.store.installed =
        some (.build 3 (overtaken (fun _ => fresh) .categories body).data) := by
  intro refreshed final
  have cached : (ofChange first later).IsCached := ⟨rfl, fun _ => rfl⟩
  obtain ⟨asked, length, load, there, set, held⟩ := run_inHand later readFirst old.there
  have overtakes := body_in_hand_overtakes (c := (begin (ofChange first later)).run inHand) 0
    ((ticketed_begin _).run inHand) (cached.of_setup_eq (setup_run _ inHand))
    (serves_ofChange readLater) asked
    (fun kind body given => given ▸ new) there set held old complete
  rw [length] at overtakes
  obtain ⟨lists, given, returned, installed, last⟩ := overtakes
  obtain rfl : lists = fun _ => fresh := funext given
  exact ⟨returned, installed, last⟩

theorem isStorable_emptyList : (Json.list []).IsStorable (some MessagePack.usualNesting) where
  there := fun null => by cases null
  shaped := Json.shaped_list fun _ member => absurd member List.not_mem_nil
  packs := ⟨[0x90], rfl⟩

/-- Where a server drops its lists, a late write brings its old categories back. -/
theorem run_dropping {categories : List Category} {turns : List Turn}
    (evaluated : (Json.readBody first).toOption.map (fun body =>
      ((MessagePack.encode (some MessagePack.usualNesting) body).isOk && body.isTruthy,
        (readCategories body.packed).entities)) =
      some (true, categories))
    (complete : Gathering.IsComplete turns) :
    let c := (begin (ofChange first Source.emptyContent)).run inHand
    let refreshed := c.run (inARow 1 true turns)
    c.loads.length = 1 ∧
      (∀ actions, ∀ answer ∈ observed answered? (c.step (.start true)) actions,
        answer.2 = .list []) ∧
      refreshed.refreshes.call? 2 =
        some (.returned (.build 2 (Catalog.Lists.data fun _ => .list []))) ∧
      refreshed.refreshes.store.installed =
        some (.build 2 (Catalog.Lists.data fun _ => .list [])) ∧
      ∃ data, data.categories = categories ∧
        (refreshed.run (lateWrite turns)).refreshes.store.installed = some (.build 3 data) := by
  intro c refreshed
  obtain ⟨body, read, known⟩ := Option.map_eq_some_iff.mp evaluated
  replace read := of_toOption_eq_some read
  obtain ⟨kept, given⟩ := Prod.mk.inj known
  obtain ⟨packs, truthy⟩ := Bool.and_eq_true_iff.mp kept
  have there : body ≠ .null := Json.ne_null_of_isTruthy truthy
  obtain ⟨asked, length, load, held, -, inHand⟩ := run_inHand Source.emptyContent read there
  obtain ⟨-, shaped⟩ :=
    ready_run (ready_begin _) _ load (List.mem_of_getElem? held) _ body inHand
  have storable : body.IsStorable (some MessagePack.usualNesting) :=
    ⟨there, shaped, exists_eq_ok_of_isOk packs⟩
  obtain ⟨returned, installed, last⟩ := overtakes_ofChange read storable
    Source.readBody_emptyContent isStorable_emptyList complete
  refine ⟨length, fun actions answer observed => ?_, returned, installed, _, ?_, last⟩
  · exact gives_of_observed (c := c.step (.start true))
      (serves_ofChange Source.readBody_emptyContent) actions asked observed
  · exact given

/-- A list of one category. -/
def oneCategory : Bytes :=
  .ofText "[\x7b\"id\": 1, \"name\": \"Old\"\x7d]"

theorem oneCategory_evaluated :
    (Json.readBody oneCategory).toOption.map (fun body =>
      ((MessagePack.encode (some MessagePack.usualNesting) body).isOk && body.isTruthy,
        (readCategories body.packed).entities)) =
      some (true, [⟨1, "Old", none, none⟩]) := by
  decide +kernel

end Change

/-- Where the cache's server refuses nothing and a forced refresh has returned, each list that is
installed was answered since that refresh started, or stands for coefficients that are missing; or a
load had it in hand at that start and cached it later; or its own refresh found it in the cache
between that start and the moment the cache was dropped. -/
theorem forced_refresh_keeps_out (s : Source) (takes : ∀ number, s.refusal? number = none)
    (before after : List Action) {earlier : Snapshot}
    (returned : ((begin s).run (before ++ .start true :: after)).refreshes.call?
      (((begin s).run before).loads.length + 1) = some (.returned earlier)) :
    let c := (begin s).run before
    let started := c.step (.start true)
    let answers := observed answered? started after
    let early := observed (foundBefore? c.loads.length) started after
    ∃ (place : Nat) (lists : Catalog.Lists Json), c.loads.length ≤ place ∧
      ((begin s).run (before ++ .start true :: after)).refreshes.store.installed =
        some (.build (place + 1) lists.data) ∧
      ∀ kind, Origin c.Unsaved answers early place kind (lists kind) := by
  intro c started answers early
  have split : (begin s).run (before ++ .start true :: after) = started.run after := by
    rw [run_append]
    rfl
  rw [split] at returned ⊢
  have takes (number : Nat) : c.source.refusal? number = none :=
    (congrFun (Source.refusal?_eq_of_setup_eq (setup_run _ before)) number).trans (takes number)
  have ready : c.Ready := ready_run (ready_begin s) before
  have fresh : Fresh c.Unsaved answers early c.loads.length (started.run after) := by
    simpa only [List.nil_append] using
      (fresh_started takes).run (ready_step ready (.start true)) after
  have ticketed : (started.run after).Ticketed :=
    (((ticketed_begin s).run before).step (.start true)).run after
  obtain ⟨snapshot, installed, late⟩ := ticketed.returned c.loads.length earlier returned
  obtain ⟨place, lists, ⟨load, there, ended⟩, rfl⟩ := ticketed.installed snapshot installed
  have order : c.loads.length ≤ place := by
    change (c.loads.length : Int) + 1 ≤ place + 1 at late
    omega
  exact ⟨place, lists, order, installed, fun kind =>
    fresh.ended place load order there kind (lists kind) (ended kind)⟩

/-- A body gets in that was in hand when the forced refresh started. -/
theorem body_in_hand_gets_in :
    let s := ofChange oneCategory Source.emptyContent
    let turns := Source.inOrder 0 Kind.all
    let c := (begin s).run inHand
    let after := (inARow 1 true turns).tail ++ lateWrite turns
    let final := (begin s).run (inHand ++ .start true :: after)
    let answers := observed answered? (c.step (.start true)) after
    let early := observed (foundBefore? c.loads.length) (c.step (.start true)) after
    (∀ number, s.refusal? number = none) ∧
      final.refreshes.call? (c.loads.length + 1) =
        some (.returned (.build 2 (Catalog.Lists.data fun _ => .list []))) ∧
      ∃ (place : Nat) (lists : Catalog.Lists Json), c.loads.length ≤ place ∧
        final.refreshes.store.installed = some (.build (place + 1) lists.data) ∧
        ∀ kind, Origin c.Unsaved answers early place kind (lists kind) := by
  have complete := Source.isComplete_inOrder 0
  generalize Source.inOrder 0 Kind.all = turns at complete ⊢
  obtain ⟨length, -, returned, -, -⟩ := run_dropping oneCategory_evaluated complete
  have forced : .start true :: ((inARow 1 true turns).tail ++ lateWrite turns) =
      inARow 1 true turns ++ lateWrite turns := rfl
  have answered : ((begin (ofChange oneCategory Source.emptyContent)).run
      (inHand ++ .start true :: ((inARow 1 true turns).tail ++ lateWrite turns))).refreshes.call?
      (((begin (ofChange oneCategory Source.emptyContent)).run inHand).loads.length + 1) =
        some (.returned (.build 2 (Catalog.Lists.data fun _ => .list []))) := by
    rw [length, forced, run_append, run_append]
    exact returned_run _ returned
  exact ⟨fun _ => rfl, answered, forced_refresh_keeps_out
    (ofChange oneCategory Source.emptyContent) (fun _ => rfl) inHand _ answered⟩

/-- After a forced refresh has installed empty lists, and although the server has answered nothing
else since it started, a later refresh brings back the category that the server has dropped. -/
theorem late_write_undoes_forced_refresh :
    let s := ofChange oneCategory Source.emptyContent
    let turns := Source.inOrder 0 Kind.all
    let c := (begin s).run inHand
    let refreshed := c.run (inARow 1 true turns)
    let answers :=
      observed answered? (c.step (.start true)) ((inARow 1 true turns).tail ++ lateWrite turns)
    (∀ number, s.refusal? number = none) ∧
      refreshed.refreshes.store.installed =
        some (.build 2 (Catalog.Lists.data fun _ => .list [])) ∧
      (∀ answer ∈ answers, answer.2 = .list []) ∧
      ∃ data, data.categories = [⟨1, "Old", none, none⟩] ∧
        (refreshed.run (lateWrite turns)).refreshes.store.installed = some (.build 3 data) := by
  have complete := Source.isComplete_inOrder 0
  generalize Source.inOrder 0 Kind.all = turns at complete ⊢
  obtain ⟨-, given, -, installed, last⟩ := run_dropping oneCategory_evaluated complete
  exact ⟨fun _ => rfl, installed, given _, last⟩

end Overlap

end Fitout
