import Fitout.Proofs.MessagePack.RoundTrip
import Fitout.Proofs.Source.Fallback

/-!
# Loads served from the cache

A load that fills an empty cache keeps the body of each list packed. A later load that finds all of
them gives what the packed bodies say: the same catalog, unless a body held a whole number beyond 64
bits, which comes back as text.
-/

namespace Fitout

namespace Remote

/-- What a content says has the shape of a value that was read. -/
theorem Reply.shaped_of_bodyOf {content : Bytes} {body : Json}
    (said : Reply.bodyOf content = .ok body) : body.Shaped Json.depthLimit := by
  unfold Reply.bodyOf at said
  split at said
  · obtain rfl := Except.ok.inj said
    exact Json.shaped_of_depth_eq_zero rfl
  · obtain ⟨value, read, rfl⟩ := of_map_eq_ok said
    unfold Reply.jsonOf? at read
    split at read
    · rename_i value body_eq
      obtain rfl := Except.ok.inj read
      exact Json.shaped_of_readBody body_eq
    · cases read
    · obtain rfl := Except.ok.inj read
      exact Json.shaped_of_depth_eq_zero rfl

namespace Client

/-- Whether a body is what the server ever answers to the query for a list. -/
def Answers (c : Client) (kind : Catalog.Kind) (body : Json) : Prop :=
  ∃ received status content,
    c.server.rule received (c.request (.ofKind kind)) = .answered status content ∧
      status < 400 ∧ Reply.bodyOf content = .ok body

variable {c d : Client} {now : Float} {kind : Catalog.Kind} {body : Json}

theorem Answers.shaped (answers : c.Answers kind body) : body.Shaped Json.depthLimit := by
  obtain ⟨_, _, _, _, _, said⟩ := answers
  exact Reply.shaped_of_bodyOf said

theorem of_receive_eq_ok {q : Query} {reply : Reply}
    (ok : (c.receive now q reply).result = .ok body) :
    ∃ status content, reply = .answered status content ∧ status < 400 ∧
      Reply.bodyOf content = .ok body := by
  unfold receive at ok
  split at ok
  · cases ok
  · rename_i status content
    dsimp only at ok
    split at ok
    · cases ok
    · split at ok
      · cases ok
      · split at ok
        · split at ok <;> cases ok
        · rename_i few
          refine ⟨status, content, rfl, by omega, ?_⟩
          cases said : Reply.bodyOf content with
          | error e =>
            rw [said] at ok
            cases ok
          | ok other =>
            rw [said] at ok
            exact congrArg _ (Except.ok.inj ok)

theorem answers_of_exchange_eq_ok (same : d.setup = c.setup)
    (ok : (d.exchange now (.ofKind kind)).result = .ok body) : c.Answers kind body := by
  have request := congr_of_setup_eq same (·.request (.ofKind kind)) fun _ => rfl
  have rule := congr_of_setup_eq same (·.server.rule) fun _ => rfl
  unfold exchange at ok
  split at ok
  · cases ok
  · obtain ⟨status, content, reply, few, said⟩ := of_receive_eq_ok ok
    refine ⟨d.server.received, status, content, ?_, few, said⟩
    rw [← request, ← rule]
    exact reply

/-- Whatever the breaker does, the bodies of lists are what the server answers. -/
theorem serves_answers (c : Client) :
    Source.Serves (fun d => d.setup = c.setup) c.Answers fun _ _ => True where
  ask _ _ _ same := ⟨setup_ask.trans same, fun _ _ => trivial⟩
  exchange _ _ _ same :=
    ⟨setup_exchange.trans same, fun _ ok => answers_of_exchange_eq_ok same ok,
      fun _ _ => trivial⟩

end Client

end Remote

theorem Json.ne_null_of_isTruthy {body : Json} (truthy : body.isTruthy = true) :
    body ≠ .null := by
  rintro rfl
  cases truthy

theorem Stored.body?_eq_packed {stored : Stored} {nesting : Option Nat} {body : Json}
    (there : body ≠ .null) (shaped : body.Shaped Json.depthLimit)
    (packed : MessagePack.encode nesting body = .ok stored.bytes) :
    stored.body? = .ok (some body.packed) := by
  have shallow : body.depth ≤ MessagePack.openLimit :=
    Nat.le_trans shaped.shallow (by decide)
  rw [body?, MessagePack.decode_encode packed shaped.named shallow]
  split
  · rename_i failed
    cases failed
  · rename_i null
    exact absurd (MessagePack.of_ofJson_eq_null (Except.ok.inj null)) there
  · rename_i value read
    rw [← Except.ok.inj read, MessagePack.toJson_ofJson]

namespace Source

variable {s t : Source} {force : Bool} {gives : Catalog.Kind → Json → Prop}
  {refuses : Catalog.Kind → Remote.RequestError → Prop} {kind : Catalog.Kind}
  {events : Journal} {held : Option Stored}

/-- A cache that has a connection and refuses no command. -/
structure IsCached (s : Source) : Prop where
  connected : s.isConnected = true
  takes : ∀ number, s.refusal? number = none

theorem IsCached.of_setup_eq (cached : s.IsCached) (same : t.setup = s.setup) : t.IsCached where
  connected := (isConnected_eq_of_setup_eq same).trans cached.connected
  takes number := (congrFun (refusal?_eq_of_setup_eq same) number).trans (cached.takes number)

/-- Where nothing was stored for a list and now something is, it is the body that was given. -/
theorem packed_of_progress {body : Json} {stored : Stored} (empty : s.stored? kind = none)
    (progress : s.Progress force gives refuses kind held events (.ended (.ok body)))
    (now : held = some stored) :
    gives kind body ∧ body ≠ .null ∧ MessagePack.encode s.nesting body = .ok stored.bytes := by
  have untouched : s.stored? kind ≠ some stored := by
    rw [empty]
    exact Option.some_ne_none _ |>.symm
  generalize fetch_eq : Fetch.ended (.ok body) = fetch at progress
  cases progress with
  | fetched consulted given kept =>
    cases fetch_eq
    cases kept with
    | skipped | refused => exact absurd now untouched
    | stored there packed =>
      obtain rfl := Option.some.inj now
      exact ⟨given, there, packed⟩
  | _ => exact absurd now untouched

/-- A list that is held is served from the cache. -/
theorem cached_of_progress {body : Json} {stored : Stored} {result : Except LoadError Json}
    (cached : t.IsCached) (holds : t.stored? kind = some stored)
    (body_eq : stored.body? = .ok (some body))
    (progress : t.Progress false gives refuses kind held events (.ended result)) :
    events = [.cacheLookup kind.name true] ∧ result = .ok body := by
  have hit {found : Except MessagePack.DecodeError (Option Json)}
      (consulted : t.Consulted false kind events found) :
      events = [.cacheLookup kind.name true] ∧ found = .ok (some body) :=
    body_eq ▸ consulted.eq_of_held ⟨rfl, cached.connected⟩ cached.takes holds
  generalize fetch_eq : Fetch.ended result = fetch at progress
  cases progress with
  | begun | uncached | asked | answered => cases fetch_eq
  | cached consulted =>
    cases fetch_eq
    obtain ⟨events_eq, found⟩ := hit consulted
    cases found
    exact ⟨events_eq, rfl⟩
  | undecodable consulted => cases (hit consulted).2
  | fetched consulted | unpackable consulted | refused consulted => cases (hit consulted).2

/-- A list for which nothing was held is stored if the server gives a body that can be. -/
theorem filled_of_progress {result : Except LoadError Json}
    (cached : s.IsCached) (empty : s.stored? kind = none)
    (storable : ∀ body, gives kind body → body ≠ .null ∧
      ∃ bytes, MessagePack.encode s.nesting body = .ok bytes)
    (progress : s.Progress force gives (fun _ _ => False) kind held events (.ended result)) :
    held.isSome ∧ ∃ body, result = .ok body := by
  generalize fetch_eq : Fetch.ended result = fetch at progress
  cases progress with
  | begun | uncached | asked | answered => cases fetch_eq
  | cached consulted | undecodable consulted => cases consulted.eq_none_of_missing empty
  | @fetched _ _ body consulted given kept =>
    cases fetch_eq
    refine ⟨?_, body, rfl⟩
    cases kept with
    | skipped off =>
      obtain null | off := off
      · exact absurd null (storable body given).1
      · rw [cached.connected] at off
        cases off
    | refused _ refused =>
      rw [cached.takes] at refused
      cases refused
    | stored => rfl
  | unpackable consulted given connected packing =>
    obtain ⟨-, bytes, packed⟩ := storable _ given
    rw [packed] at packing
    cases packing
  | refused consulted refused => exact refused.elim

/-- Behind a closed breaker, a load fills an empty cache. -/
theorem exists_loadBy_filling {turns : List Turn} (served : s.client.IsServed) (cached : s.IsCached)
    (empty : ∀ kind, s.stored? kind = none)
    (storable : ∀ kind body, s.client.Gives kind body → body ≠ .null ∧
      ∃ bytes, MessagePack.encode s.nesting body = .ok bytes)
    (complete : Gathering.IsComplete turns) :
    ∃ first data, s.loadBy false turns = some first ∧ first.result = .ok data ∧
      ∀ kind, (first.source.stored? kind).isSome := by
  obtain ⟨first, loaded⟩ := Option.isSome_iff_exists.mp (isSome_loadBy s false complete)
  obtain ⟨g, g_eq, source, -, outcome⟩ := of_loadBy_eq_some loaded
  rw [forget_unforced] at g_eq
  have each (kind : Catalog.Kind) : (first.source.stored? kind).isSome ∧
      ∃ body, g.fetches kind = .ended (.ok body) := by
    obtain ⟨result, fetch, progress⟩ :=
      Gathering.exists_ended_run false served.serves ⟨rfl, served.closed⟩ complete kind
    rw [← g_eq, ← source] at progress
    obtain ⟨stored, body, rfl⟩ := filled_of_progress cached (empty kind) (storable kind) progress
    exact ⟨stored, body, g_eq ▸ fetch⟩
  obtain ⟨lists, result, -⟩ | ⟨kind, e, -, failed⟩ := outcome
  · exact ⟨first, lists.data, loaded, result, fun kind => (each kind).1⟩
  · obtain ⟨-, body, fetch⟩ := each kind
    cases Fetch.ended.inj (failed.symm.trans fetch)

theorem serves_anything : Serves (fun _ => True) (fun _ _ => True) fun _ _ => True where
  ask _ _ _ _ := ⟨trivial, fun _ _ => trivial⟩
  exchange _ _ _ _ := ⟨trivial, fun _ _ => trivial, fun _ _ => trivial⟩

theorem IsCached.of_loadBy {turns : List Turn} {first : Step Catalog.Data} (cached : s.IsCached)
    (loaded : s.loadBy false turns = some first) (same : t.cache = first.source.cache) :
    t.IsCached := by
  obtain ⟨g, g_eq, source, -, -⟩ := of_loadBy_eq_some loaded
  have underway : g.Underway s false (fun _ => True) (fun _ _ => True) fun _ _ => True := by
    rw [g_eq, forget_unforced]
    exact Gathering.underway_run serves_anything (Gathering.underway_start trivial) turns
  rw [source] at same
  constructor
  · rw [isConnected, same]
    exact (isConnected_eq_of_setup_eq underway.setup).trans cached.connected
  · intro number
    rw [refusal?, same]
    exact (congrFun (refusal?_eq_of_setup_eq underway.setup) number).trans (cached.takes number)

/-- A load that filled an empty cache: each list is what the server answered, and is kept packed. -/
theorem exists_packed_of_loadBy {turns : List Turn} {first : Step Catalog.Data}
    {data : Catalog.Data} (empty : ∀ kind, s.stored? kind = none)
    (loaded : s.loadBy false turns = some first) (result : first.result = .ok data)
    (filled : ∀ kind, (first.source.stored? kind).isSome) :
    ∃ bodies : Catalog.Lists Json, data = bodies.data ∧
      ∀ kind, s.client.Answers kind (bodies kind) ∧
        ∃ stored, first.source.stored? kind = some stored ∧
          stored.body? = .ok (some (bodies kind).packed) := by
  obtain ⟨g, g_eq, source, -, outcome⟩ := of_loadBy_eq_some loaded
  obtain ⟨lists, result_eq, ended⟩ | ⟨kind, e, failed, -⟩ := outcome
  · refine ⟨lists, Except.ok.inj (result.symm.trans result_eq), fun kind => ?_⟩
    obtain ⟨stored, held⟩ := Option.isSome_iff_exists.mp (filled kind)
    have underway : g.Underway s false (fun d => d.setup = s.client.setup) s.client.Answers
        fun _ _ => True := by
      rw [g_eq, forget_unforced]
      exact Gathering.underway_run s.client.serves_answers (Gathering.underway_start rfl) turns
    have progress := underway.progress kind
    rw [ended kind] at progress
    obtain ⟨answered, there, packed⟩ :=
      packed_of_progress (empty kind) progress (source ▸ held)
    exact ⟨answered, stored, held, Stored.body?_eq_packed there answered.shaped packed⟩
  · rw [result] at failed
    cases failed

/-- A load of lists that are all held is served from the cache, whatever the server does. -/
theorem exists_loadBy_of_held {turns : List Turn} (bodies : Catalog.Lists Json)
    (cached : t.IsCached) (complete : Gathering.IsComplete turns)
    (held : ∀ kind, ∃ stored, t.stored? kind = some stored ∧
      stored.body? = .ok (some (bodies kind))) :
    ∃ again, t.loadBy false turns = some again ∧ again.result = .ok bodies.data ∧
      ∀ kind, again.events.lookups kind = [.cacheLookup kind.name true] := by
  obtain ⟨again, loaded⟩ := Option.isSome_iff_exists.mp (isSome_loadBy t false complete)
  obtain ⟨g, g_eq, -, lookups, outcome⟩ := of_loadBy_eq_some loaded
  rw [forget_unforced] at g_eq
  have each (kind : Catalog.Kind) : g.events.lookups kind = [.cacheLookup kind.name true] ∧
      g.fetches kind = .ended (.ok (bodies kind)) := by
    obtain ⟨stored, holds, body_eq⟩ := held kind
    obtain ⟨result, fetch, progress⟩ :=
      Gathering.exists_ended_run false serves_anything trivial complete kind
    rw [← g_eq] at progress
    obtain ⟨events, rfl⟩ := cached_of_progress cached holds body_eq progress
    exact ⟨events, g_eq ▸ fetch⟩
  refine ⟨again, loaded, ?_, fun kind => (lookups kind).trans (each kind).1⟩
  obtain ⟨lists, result, ended⟩ | ⟨kind, e, -, ended⟩ := outcome
  · have lists_eq : lists = bodies := funext fun kind =>
      Except.ok.inj (Fetch.ended.inj ((ended kind).symm.trans (each kind).2))
    rw [result, lists_eq]
  · have failed := Fetch.ended.inj (ended.symm.trans (each kind).2)
    cases failed

/-- After a load that filled an empty cache, a load served from that cache gives what the packed
bodies say: the same catalog if no whole number in them exceeds 64 bits. -/
theorem reload_gives_packed_bodies {turns turnsAgain : List Turn} {first : Step Catalog.Data}
    {data : Catalog.Data} (cached : s.IsCached) (empty : ∀ kind, s.stored? kind = none)
    (loaded : s.loadBy false turns = some first) (result : first.result = .ok data)
    (filled : ∀ kind, (first.source.stored? kind).isSome)
    (same : t.cache = first.source.cache) (complete : Gathering.IsComplete turnsAgain) :
    ∃ (bodies : Catalog.Lists Json) (again : Step Catalog.Data),
      (∀ kind, s.client.Answers kind (bodies kind)) ∧ data = bodies.data ∧
      t.loadBy false turnsAgain = some again ∧
      (∀ kind, again.events.lookups kind = [.cacheLookup kind.name true]) ∧
      again.result = .ok (Catalog.Lists.data fun kind => (bodies kind).packed) ∧
      ((∀ kind, (bodies kind).Everywhere Json.WholeFits) → again.result = first.result) := by
  obtain ⟨bodies, rfl, kept⟩ := exists_packed_of_loadBy empty loaded result filled
  have held (kind : Catalog.Kind) : ∃ stored, t.stored? kind = some stored ∧
      stored.body? = .ok (some (bodies kind).packed) := by
    obtain ⟨-, stored, held, body_eq⟩ := kept kind
    refine ⟨stored, ?_, body_eq⟩
    rw [stored?, same]
    exact held
  obtain ⟨again, loadedAgain, given, hits⟩ :=
    exists_loadBy_of_held (fun kind => (bodies kind).packed) (cached.of_loadBy loaded same)
      complete held
  refine ⟨bodies, again, fun kind => (kept kind).1, rfl, loadedAgain, hits, given, fun small => ?_⟩
  have packed_eq : (fun kind => (bodies kind).packed) = bodies :=
    funext fun kind => Json.packed_eq_self (small kind)
  rw [given, packed_eq, result]

section Content

variable {content : Bytes} {body : Json}

theorem isCached_ofContent {entries : List (String × Stored)} :
    (ofContent content entries fun _ => none).IsCached :=
  ⟨rfl, fun _ => rfl⟩

theorem stored?_ofContent_nil (kind : Catalog.Kind) :
    (ofContent content [] fun _ => none).stored? kind = none :=
  rfl

/-- A first load with an empty cache, where the server answers everything with one content. -/
theorem load_ofContent_fills (read : Json.readBody content = .ok body) (there : body ≠ .null)
    (packs : ∃ bytes, MessagePack.encode (some MessagePack.usualNesting) body = .ok bytes) :
    ∃ data, ((ofContent content [] fun _ => none).load 0 false).result = .ok data ∧
      ∀ kind, (((ofContent content [] fun _ => none).load 0 false).source.stored? kind).isSome := by
  obtain ⟨first, data, loaded, result, filled⟩ :=
    exists_loadBy_filling (isServed_ofContent read) isCached_ofContent
      stored?_ofContent_nil
      (fun kind other given => by
        rw [Except.ok.inj ((readBody_of_gives_ofContent given).symm.trans read)]
        exact ⟨there, packs⟩)
      (isComplete_inOrder 0)
  rw [loadBy_inOrder] at loaded
  obtain rfl := Option.some.inj loaded
  exact ⟨data, result, filled⟩

theorem bodyOf_of_answers_ofContent {entries : List (String × Stored)}
    {refusal : Nat → Option String} {kind : Catalog.Kind}
    (answers : (ofContent content entries refusal).client.Answers kind body) :
    Remote.Reply.bodyOf content = .ok body := by
  obtain ⟨received, status, other, answer, -, said⟩ := answers
  obtain ⟨-, rfl⟩ := Remote.Reply.answered.inj answer
  exact said

end Content

/-- Empty lists come back from the cache as they are. -/
theorem reload_gives_empty_lists :
    let first := (ofContent emptyContent [] fun _ => none).load 0 false
    (first.source.load 0 false).result = first.result ∧
      ∃ data, first.result = .ok data := by
  intro first
  obtain ⟨data, result, filled⟩ :=
    load_ofContent_fills readBody_emptyContent (fun null => by cases null) ⟨[0x90], rfl⟩
  obtain ⟨bodies, again, answers, -, loaded, -, -, small⟩ :=
    reload_gives_packed_bodies (t := first.source) isCached_ofContent
      stored?_ofContent_nil (loadBy_inOrder _ 0 false) result filled rfl (isComplete_inOrder 0)
  rw [loadBy_inOrder] at loaded
  obtain rfl := Option.some.inj loaded
  refine ⟨small fun kind => ?_, data, result⟩
  have body := Except.ok.inj ((bodyOf_of_answers_ofContent (answers kind)).symm.trans
    (Remote.Client.bodyOf_of_readBody readBody_emptyContent))
  rw [body]
  exact ⟨trivial, trivial⟩

/-- A name that is a whole number beyond 64 bits: the first load leaves the category out, and the
one that is served from the cache takes it in under a text. -/
theorem reload_names_category :
    let content := Bytes.ofText "[\x7b\"id\": 1, \"name\": 18446744073709551616\x7d]"
    let first := (ofContent content [] fun _ => none).load 0 false
    let again := first.source.load 0 false
    (∀ kind, again.events.lookups kind = [.cacheLookup kind.name true]) ∧
      (∃ data, first.result = .ok data ∧ data.categories = []) ∧
      ∃ data, again.result = .ok data ∧
        data.categories = [⟨1, "18446744073709551616", none, none⟩] := by
  intro content first again
  -- Only reading and packing are evaluated; the loads are known from the theorems on all loads.
  have evaluated : (Json.readBody content).toOption.map (fun body =>
      ((MessagePack.encode (some MessagePack.usualNesting) body).isOk && body.isTruthy,
        (Catalog.readCategories body).entities, (Catalog.readCategories body.packed).entities)) =
      some (true, [], [⟨1, "18446744073709551616", none, none⟩]) := by
    decide +kernel
  obtain ⟨body, read, known⟩ := Option.map_eq_some_iff.mp evaluated
  replace read := of_toOption_eq_some read
  obtain ⟨storable, skipped, named⟩ : _ ∧ _ ∧ _ := by
    simpa only [Prod.mk.injEq] using known
  obtain ⟨packs, truthy⟩ := Bool.and_eq_true_iff.mp storable
  obtain ⟨data, result, filled⟩ := load_ofContent_fills read (Json.ne_null_of_isTruthy truthy)
    (exists_eq_ok_of_isOk packs)
  have loaded := loadBy_inOrder (ofContent content [] fun _ => none) 0 false
  obtain ⟨bodies, rfl, kept⟩ :=
    exists_packed_of_loadBy stored?_ofContent_nil loaded result filled
  have categories : bodies .categories = body := Except.ok.inj
    ((bodyOf_of_answers_ofContent (kept .categories).1).symm.trans
      (Remote.Client.bodyOf_of_readBody read))
  obtain ⟨second, loadedAgain, given, hits⟩ :=
    exists_loadBy_of_held (fun kind => (bodies kind).packed)
      (isCached_ofContent.of_loadBy loaded (t := first.source) rfl) (isComplete_inOrder 0)
      fun kind => (kept kind).2
  rw [loadBy_inOrder] at loadedAgain
  obtain rfl := Option.some.inj loadedAgain
  refine ⟨hits, ⟨_, result, ?_⟩, _, given, ?_⟩
  · rw [Catalog.Lists.data, categories]
    exact skipped
  · rw [Catalog.Lists.data, categories]
    exact named

end Source

end Fitout
