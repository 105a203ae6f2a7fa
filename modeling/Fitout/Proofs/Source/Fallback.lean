import Mathlib
import Fitout.Proofs.MessagePack.Packing
import Fitout.Proofs.Source.Course

/-!
# Loads that do without the cache

Behind a closed breaker, and with a server that answers every query for a list, a load fails in two
ways only: the cache held bytes that it cannot read, or the body of a list cannot be packed. A cache
whose server refuses commands, at any time and in any number, is no reason.
-/

namespace Fitout

namespace Address

theorem authority_below (a : Address) (target : String) :
    (a.below target).authority = a.authority := by
  simp only [below, withPath, authority]
  rfl

theorem showsScheme_of_http {a : Address} (scheme : a.scheme = "http")
    (authority : a.authority.isEmpty = false) : a.showsScheme = true := by
  have start : (Text.cutAt '/' a.plainText).1 = "http:" := by
    have nonempty : "http".isEmpty = false := by decide
    simp only [plainText, scheme, authority, nonempty, Bool.false_eq_true, if_false, Text.cutAt,
      String.toList_append]
    rfl
  rw [showsScheme, start]
  cbv

end Address

namespace Remote.Client

/-- Whether the server ever gives a body for a list. -/
def Gives (c : Client) (kind : Catalog.Kind) (body : Json) : Prop :=
  ∃ received status content,
    c.server.rule received (c.request (.ofKind kind)) = .answered status content ∧
      200 ≤ status ∧ status < 300 ∧ Json.readBody content = .ok body

/-- A client of a server at an address of the web that follows a rule. -/
def ofRule (rule : List Request → Request → Reply) : Client where
  policy := ⟨"catalog", 5, 30, 1⟩
  breaker := .closed
  server := ⟨rule, []⟩
  address := ⟨"http", "", "upstream", none, "/api", none, none⟩
  token := none
  requestId := none

theorem showsScheme_ofRule (rule : List Request → Request → Reply) (q : Query) :
    ((ofRule rule).addressOf q).showsScheme = true := by
  have authority : (ofRule rule).address.authority.isEmpty = false := by
    have shown : (⟨"http", "", "upstream", none, "/api", none, none⟩ : Address).authority =
        "upstream" := by
      decide +kernel
    exact shown ▸ rfl
  exact Address.showsScheme_of_http rfl ((Address.authority_below _ _).symm ▸ authority)

/-- Whether the breaker is closed, and the server can be asked and always gives a body. -/
structure IsServed (c : Client) : Prop where
  closed : c.breaker.phase = .closed
  writable : ∀ kind, c.writeError? (.ofKind kind) = none
  rooted : ∀ kind, (c.addressOf (.ofKind kind)).showsScheme = true
  answers : ∀ kind received, ∃ status content body,
    c.server.rule received (c.request (.ofKind kind)) = .answered status content ∧
      200 ≤ status ∧ status < 300 ∧ Json.readBody content = .ok body

theorem readBody_nil : Json.readBody [] = .error .unexpected := by
  cbv

theorem bodyOf_of_readBody {content : Bytes} {body : Json}
    (read : Json.readBody content = .ok body) : Reply.bodyOf content = .ok body := by
  have nonempty : content.isEmpty = false := by
    refine Bool.eq_false_iff.mpr fun empty => ?_
    obtain rfl := List.isEmpty_iff.mp empty
    cases readBody_nil.symm.trans read
  simp only [Reply.bodyOf, nonempty, Bool.false_eq_true, if_false, Reply.jsonOf?, read, Except.map,
    Option.getD_some]

theorem attempt_closed {b : Breaker Float} (closed : b.phase = .closed)
    (p : Breaker.Policy Float) (now : Float) : b.attempt p now = ⟨.ok (), b, []⟩ := by
  simp only [Breaker.attempt, closed]

theorem succeed_eq_closed (b : Breaker Float) : b.succeed.breaker = .closed := by
  unfold Breaker.succeed
  split <;> rfl

variable {c d : Client}

/-- A client that differs from one that is served in the requests sent and the failures counted. -/
structure Alike (c d : Client) : Prop where
  setup : d.setup = c.setup
  closed : d.breaker.phase = .closed

theorem Alike.ask (alike : c.Alike d) (now : Float) (q : Query) :
    c.Alike (d.ask now q).client ∧ (d.ask now q).result = .ok () := by
  have admitted := attempt_closed alike.closed d.policy now
  refine ⟨⟨setup_ask.trans alike.setup, ?_⟩, ?_⟩
  · simp only [Client.ask, admitted, alike.closed]
  · simp only [Client.ask, admitted]

/-- An answer that is a success closes the circuit. -/
theorem alike_receive {q : Query} {status : Nat} {content : Bytes} {body : Json}
    (same : d.setup = c.setup) (now : Float) (rooted : (d.addressOf q).showsScheme = true)
    (most : status < 400) (read : Json.readBody content = .ok body) :
    c.Alike (d.receive now q (.answered status content)).client ∧
      (d.receive now q (.answered status content)).result = .ok body := by
  have few : ¬ 500 ≤ status ∧ ¬ 400 ≤ status := by omega
  refine ⟨⟨setup_receive.trans same, ?_⟩, ?_⟩
  · simp only [Client.receive, rooted, Bool.not_true, Bool.false_eq_true, few.1, few.2, if_false]
    exact congrArg Breaker.phase (succeed_eq_closed d.breaker)
  · simp only [Client.receive, rooted, Bool.not_true, Bool.false_eq_true, few.1, few.2, if_false,
      bodyOf_of_readBody read]
    rfl

theorem alike_exchange {kind : Catalog.Kind} {status : Nat} {content : Bytes} {body : Json}
    (same : d.setup = c.setup) (now : Float) (writable : c.writeError? (.ofKind kind) = none)
    (rooted : (c.addressOf (.ofKind kind)).showsScheme = true)
    (answer : c.server.rule d.server.received (c.request (.ofKind kind)) = .answered status content)
    (most : status < 400) (read : Json.readBody content = .ok body) :
    c.Alike (d.exchange now (.ofKind kind)).client ∧
      (d.exchange now (.ofKind kind)).result = .ok body := by
  have writable : d.writeError? (.ofKind kind) = none :=
    (congr_of_setup_eq same (·.writeError? (.ofKind kind)) fun _ => rfl).trans writable
  have rooted : (d.addressOf (.ofKind kind)).showsScheme = true :=
    (congr_of_setup_eq same (fun c => (c.addressOf (.ofKind kind)).showsScheme)
      fun _ => rfl).trans rooted
  have request := congr_of_setup_eq same (·.request (.ofKind kind)) fun _ => rfl
  have rule := congr_of_setup_eq same (·.server.rule) fun _ => rfl
  let asked := (d.server.exchange (d.request (.ofKind kind))).2
  have sent : d.exchange now (.ofKind kind) =
      { d with server := asked }.receive now (.ofKind kind) (.answered status content) := by
    simp only [Client.exchange, writable, Server.exchange, rule, request, answer, asked]
  have same : ({ d with server := asked } : Client).setup = c.setup :=
    (rfl : ({ d with server := asked } : Client).setup = d.setup).trans same
  rw [sent]
  exact alike_receive same now rooted most read

theorem Alike.exchange {kind : Catalog.Kind} {status : Nat} {content : Bytes} {body : Json}
    (alike : c.Alike d) (now : Float) (writable : c.writeError? (.ofKind kind) = none)
    (rooted : (c.addressOf (.ofKind kind)).showsScheme = true)
    (answer : c.server.rule d.server.received (c.request (.ofKind kind)) = .answered status content)
    (most : status < 400) (read : Json.readBody content = .ok body) :
    c.Alike (d.exchange now (.ofKind kind)).client ∧
      (d.exchange now (.ofKind kind)).result = .ok body :=
  alike_exchange alike.setup now writable rooted answer most read

/-- A client that is served gives a body to every query for a list. -/
theorem IsServed.serves (served : c.IsServed) :
    Source.Serves c.Alike c.Gives fun _ _ => False where
  ask d now kind alike := by
    obtain ⟨after, admitted⟩ := alike.ask now (.ofKind kind)
    refine ⟨after, fun e rejected => ?_⟩
    rw [admitted] at rejected
    cases rejected
  exchange d now kind alike := by
    obtain ⟨status, content, body, answer, least, most, read⟩ :=
      served.answers kind d.server.received
    obtain ⟨after, given⟩ := alike.exchange now (served.writable kind) (served.rooted kind) answer
      (most.trans (by decide)) read
    refine ⟨after, fun other same => ?_, fun e failed => ?_⟩
    · rw [given] at same
      exact Except.ok.inj same ▸ ⟨d.server.received, status, content, answer, least, most, read⟩
    · rw [given] at failed
      cases failed

end Remote.Client

namespace Source

variable {s : Source} {force : Bool} {kind : Catalog.Kind}

/-- What becomes of a list, by what the cache gave for it and what the server gives. -/
def listOf (s : Source) (found : Except MessagePack.DecodeError (Option Json)) (body : Json) :
    Except LoadError Json :=
  match found with
  | .error e => .error (.unpacking e)
  | .ok (some cached) => .ok cached
  | .ok none =>
    if s.isConnected then
      match MessagePack.encode s.nesting body with
      | .error e => .error (.packing e)
      | .ok _ => .ok body
    else .ok body

theorem listOf_eq_of_kept {body : Json} {held : Option Stored} (kept : s.Kept kind body held) :
    s.listOf (.ok none) body = .ok body := by
  rw [listOf]
  cases kept with
  | skipped off =>
    obtain rfl | off := off
    · split <;> rfl
    · rw [off]
      rfl
  | refused packed | stored _ packed =>
    rw [packed]
    split <;> rfl

/-- A fetch that has ended gives the list that the cache and the server give together. -/
theorem exists_listOf_eq {held : Option Stored} {events : Journal}
    {result : Except LoadError Json} {c : Remote.Client} (served : c.IsServed)
    (progress : s.Progress force c.Gives (fun _ _ => False) kind held events (.ended result)) :
    ∃ found body, s.Consulted force kind events found ∧ c.Gives kind body ∧
      s.listOf found body = result := by
  generalize fetch_eq : Fetch.ended result = fetch at progress
  cases progress with
  | begun | uncached | asked | answered => cases fetch_eq
  | @cached _ body consulted =>
    obtain ⟨status, content, other, answer⟩ := served.answers kind []
    cases fetch_eq
    exact ⟨_, other, consulted, ⟨[], status, content, answer⟩, rfl⟩
  | undecodable consulted =>
    obtain ⟨status, content, other, answer⟩ := served.answers kind []
    cases fetch_eq
    exact ⟨_, other, consulted, ⟨[], status, content, answer⟩, rfl⟩
  | @fetched _ _ body consulted given kept =>
    cases fetch_eq
    exact ⟨_, body, consulted, given, listOf_eq_of_kept kept⟩
  | @unpackable _ body e consulted given connected packing =>
    cases fetch_eq
    refine ⟨_, body, consulted, given, ?_⟩
    simp only [listOf, connected, packing, if_true]
  | refused consulted refused => exact refused.elim

theorem listOf_forget (s : Source) (force : Bool) : (s.forget force).1.listOf = s.listOf := by
  funext found body
  simp only [listOf, isConnected_eq_of_setup_eq (setup_forget s force), nesting_forget]

/-- A list is there if the bytes held for it can be read and the server's body can be packed. -/
theorem exists_listOf_eq_ok {events : Journal} {body : Json}
    {found : Except MessagePack.DecodeError (Option Json)}
    (consulted : s.Consulted force kind events found)
    (readable : force = false → ∀ stored, s.stored? kind = some stored →
      ∃ found, stored.body? = .ok found)
    (packable : s.isConnected = true → body.IsPackable s.nesting) :
    ∃ list, s.listOf found body = .ok list := by
  have fromServer : ∃ list, s.listOf (.ok none) body = .ok list := by
    rw [listOf]
    split
    · rename_i connected
      obtain ⟨bytes, packed⟩ := MessagePack.exists_encode_iff.mpr (packable connected)
      exact ⟨body, by rw [packed]⟩
    · exact ⟨body, rfl⟩
  cases consulted with
  | skipped | refused | absent => exact fromServer
  | held on _ held =>
    obtain ⟨found, read⟩ := readable on.1 _ held
    rw [read]
    cases found with
    | some cached => exact ⟨cached, rfl⟩
    | none => exact fromServer

/-- A load of a client that is served, in turns enough: each list is what the cache and the server
give together, and the load gives all lists or an error of one of them. -/
theorem exists_loadBy_eq (s : Source) (force : Bool) {turns : List Turn}
    (served : s.client.IsServed) (complete : Gathering.IsComplete turns) :
    ∃ (step : Step Catalog.Data)
      (found : Catalog.Lists (Except MessagePack.DecodeError (Option Json)))
      (bodies : Catalog.Lists Json),
      s.loadBy force turns = some step ∧
      (∀ kind, s.Consulted force kind (step.events.lookups kind) (found kind)) ∧
      (∀ kind, s.client.Gives kind (bodies kind)) ∧
      ((∃ lists : Catalog.Lists Json, step.result = .ok lists.data ∧
          ∀ kind, s.listOf (found kind) (bodies kind) = .ok (lists kind)) ∨
        ∃ kind e, step.result = .error e ∧ s.listOf (found kind) (bodies kind) = .error e) := by
  obtain ⟨step, loaded⟩ := Option.isSome_iff_exists.mp (isSome_loadBy s force complete)
  obtain ⟨g, g_eq, -, lookups, outcome⟩ := of_loadBy_eq_some loaded
  have holds : s.client.Alike (s.forget force).1.client := by
    rw [client_forget]
    exact ⟨rfl, served.closed⟩
  have each (kind : Catalog.Kind) : ∃ found body,
      s.Consulted force kind (step.events.lookups kind) found ∧ s.client.Gives kind body ∧
        g.fetches kind = .ended (s.listOf found body) := by
    obtain ⟨result, fetch, progress⟩ :=
      Gathering.exists_ended_run force served.serves holds complete kind
    rw [← g_eq, ← lookups kind] at progress
    obtain ⟨found, body, consulted, given, same⟩ := exists_listOf_eq served progress
    rw [listOf_forget] at same
    exact ⟨found, body, consulted.of_forget, given, g_eq ▸ same ▸ fetch⟩
  choose found bodies consulted given fetch using each
  refine ⟨step, found, bodies, loaded, consulted, given, ?_⟩
  obtain ⟨lists, result, ended⟩ | ⟨kind, e, result, ended⟩ := outcome
  · exact .inl ⟨lists, result, fun kind =>
      Fetch.ended.inj ((fetch kind).symm.trans (ended kind))⟩
  · exact .inr ⟨kind, e, result, Fetch.ended.inj ((fetch kind).symm.trans ended)⟩

/-- In any order of the turns and whatever commands the cache's server refuses, a load returns what
the cache and the server give together for each list. It raises only where bytes that were looked up
do not decode or a body does not pack: it holds half of a surrogate pair, or a part of it is too
long or lies in more containers than the packer takes. -/
theorem load_returns_unless_unreadable (s : Source) (force : Bool) (turns : List Turn)
    (served : s.client.IsServed) (complete : Gathering.IsComplete turns) :
    ∃ (step : Step Catalog.Data)
      (found : Catalog.Lists (Except MessagePack.DecodeError (Option Json)))
      (bodies : Catalog.Lists Json),
      s.loadBy force turns = some step ∧
      (∀ kind, s.Consulted force kind (step.events.lookups kind) (found kind)) ∧
      (∀ kind, s.client.Gives kind (bodies kind)) ∧
      (∀ data, step.result = .ok data ↔ ∃ lists : Catalog.Lists Json,
        (∀ kind, s.listOf (found kind) (bodies kind) = .ok (lists kind)) ∧ lists.data = data) ∧
      (∀ e, step.result = .error e → ∃ kind, s.listOf (found kind) (bodies kind) = .error e) ∧
      ((force = false → ∀ kind stored, s.stored? kind = some stored →
          ∃ body, stored.body? = .ok body) →
        (s.isConnected = true → ∀ kind body, s.client.Gives kind body →
          body.IsPackable s.nesting) →
        ∃ data, step.result = .ok data) := by
  obtain ⟨step, found, bodies, loaded, consulted, given, outcome⟩ :=
    exists_loadBy_eq s force served complete
  refine ⟨step, found, bodies, loaded, consulted, given, fun data => ?_, fun e failed => ?_,
    fun readable packable => ?_⟩
  · obtain ⟨lists, result, all⟩ | ⟨kind, e, result, failed⟩ := outcome
    · rw [result]
      constructor
      · intro loaded
        exact ⟨lists, all, Except.ok.inj loaded⟩
      · rintro ⟨others, same, rfl⟩
        have lists_eq : lists = others :=
          funext fun kind => Except.ok.inj ((all kind).symm.trans (same kind))
        rw [lists_eq]
    · rw [result]
      refine ⟨fun loaded => (by cases loaded), ?_⟩
      rintro ⟨lists, all, -⟩
      rw [all kind] at failed
      cases failed
  · obtain ⟨lists, result, -⟩ | ⟨kind, other, result, unreadable⟩ := outcome
    · rw [result] at failed
      cases failed
    · rw [result] at failed
      obtain rfl := Except.error.inj failed
      exact ⟨kind, unreadable⟩
  · obtain ⟨lists, result, -⟩ | ⟨kind, e, -, unreadable⟩ := outcome
    · exact ⟨_, result⟩
    · obtain ⟨list, there⟩ := exists_listOf_eq_ok (consulted kind)
        (fun unforced => readable unforced kind)
        fun connected => packable connected kind _ (given kind)
      rw [there] at unreadable
      cases unreadable

section Content

/-- A catalog server that answers everything with one content, behind a cache. -/
def ofContent (content : Bytes) (entries : List (String × Stored))
    (refusal : Nat → Option String) : Source where
  client := .ofRule fun _ _ => .answered 200 content
  cache := some ⟨"redis://cache", Cache.defaultTtl, ⟨entries, 0, refusal⟩, true, 0⟩
  nesting := some MessagePack.usualNesting

variable {content : Bytes} {entries : List (String × Stored)} {refusal : Nat → Option String}
  {body : Json}

theorem isServed_ofContent (read : Json.readBody content = .ok body) :
    (ofContent content entries refusal).client.IsServed where
  closed := rfl
  writable kind := by cases kind <;> rfl
  rooted kind := Remote.Client.showsScheme_ofRule _ _
  answers _ _ := ⟨200, content, body, rfl, by decide, by decide, read⟩

theorem readBody_of_gives_ofContent
    (given : (ofContent content entries refusal).client.Gives kind body) :
    Json.readBody content = .ok body := by
  obtain ⟨received, status, other, answer, -, -, read⟩ := given
  obtain ⟨-, rfl⟩ := Remote.Reply.answered.inj answer
  exact read

/-- A content that says no more than that a list is empty. -/
def emptyContent : Bytes :=
  Bytes.ofText "[]"

theorem readBody_emptyContent : Json.readBody emptyContent = .ok (.list []) := by
  cbv

theorem isComplete_inOrder (now : Float) :
    Gathering.IsComplete (inOrder now Catalog.Kind.all) := by
  intro kind
  cases kind <;> exact Nat.le_refl 4

/-- A server that refuses all commands: its bytes, which no one can read, are no trouble. -/
theorem refusing_server_fails_no_load :
    ∃ data, ((ofContent emptyContent [("catalog:categories", ⟨none, [0xC1]⟩)] fun _ =>
      some "down").load 0 false).result = .ok data := by
  generalize source : ofContent emptyContent [("catalog:categories", ⟨none, [0xC1]⟩)]
    (fun _ => some "down") = s
  have served : s.client.IsServed := source ▸ isServed_ofContent readBody_emptyContent
  obtain ⟨step, found, bodies, loaded, consulted, given, returns, -⟩ :=
    load_returns_unless_unreadable s false (inOrder 0 Catalog.Kind.all) served
      (isComplete_inOrder 0)
  rw [loadBy_inOrder] at loaded
  obtain rfl := Option.some.inj loaded
  subst source
  refine ⟨Catalog.Lists.data fun _ => .list [], (returns _).mpr ⟨fun _ => .list [], ?_, rfl⟩⟩
  intro kind
  have refused (number : Nat) : (ofContent emptyContent [("catalog:categories", ⟨none, [0xC1]⟩)]
      fun _ => some "down").refusal? number ≠ none := Option.some_ne_none "down"
  have missed := (consulted kind).eq_none_of_refused refused
  have body := Except.ok.inj
    ((readBody_of_gives_ofContent (given kind)).symm.trans readBody_emptyContent)
  rw [missed, body]
  rfl

/-- One byte that starts no value is stored for the categories. -/
theorem undecodable_bytes_fail_load :
    let held := ofContent emptyContent [("catalog:categories", ⟨none, [0xC1]⟩)] fun _ => none
    held.client.IsServed ∧ (held.load 0 false).result = .error (.unpacking .badFormat) := by
  intro held
  have served : held.client.IsServed := isServed_ofContent readBody_emptyContent
  refine ⟨served, ?_⟩
  obtain ⟨step, found, bodies, loaded, consulted, given, outcome⟩ :=
    exists_loadBy_eq held false served (isComplete_inOrder 0)
  rw [loadBy_inOrder] at loaded
  obtain rfl := Option.some.inj loaded
  have undecodable : Stored.body? ⟨none, [0xC1]⟩ = .error .badFormat := by
    have decoded : MessagePack.decode [0xC1] = .error .badFormat := by cbv
    simp only [Stored.body?, decoded]
  have lists (kind : Catalog.Kind) : held.listOf (found kind) (bodies kind) =
      if kind = .categories then .error (.unpacking .badFormat) else .ok (.list []) := by
    rw [Except.ok.inj ((readBody_of_gives_ofContent (given kind)).symm.trans readBody_emptyContent)]
    cases kind with
    | categories =>
      have hit := ((consulted .categories).eq_of_held ⟨rfl, rfl⟩ (fun _ => rfl) rfl).2
      rw [hit.trans undecodable]
      rfl
    | _ =>
      rw [(consulted _).eq_none_of_missing rfl]
      rfl
  obtain ⟨all, -, fetched⟩ | ⟨kind, e, result, failed⟩ := outcome
  · cases (lists .categories).symm.trans (fetched .categories)
  · rw [lists] at failed
    split at failed
    · rw [result, ← Except.error.inj failed]
    · cases failed

/-- A content with half of a surrogate pair, which has no bytes. -/
def halfContent : Bytes :=
  Bytes.ofText "[\"\\ud800\"]"

/-- The body of each list holds half of a surrogate pair. -/
theorem half_pair_fails_load :
    let fresh := ofContent halfContent [] fun _ => none
    fresh.client.IsServed ∧ ∃ e, (fresh.load 0 false).result = .error (.packing e) := by
  intro fresh
  have evaluated : (Json.readBody halfContent).toOption.map
      (fun body => (MessagePack.encode fresh.nesting body).isOk) = some false := by
    decide +kernel
  obtain ⟨body, read, unpackable⟩ := Option.map_eq_some_iff.mp evaluated
  replace read := of_toOption_eq_some read
  have served : fresh.client.IsServed := isServed_ofContent read
  refine ⟨served, ?_⟩
  obtain ⟨step, found, bodies, loaded, consulted, given, outcome⟩ :=
    exists_loadBy_eq fresh false served (isComplete_inOrder 0)
  rw [loadBy_inOrder] at loaded
  obtain rfl := Option.some.inj loaded
  cases packing : MessagePack.encode fresh.nesting body with
  | ok bytes =>
    rw [packing] at unpackable
    cases unpackable
  | error reason =>
    have lists (kind : Catalog.Kind) :
        fresh.listOf (found kind) (bodies kind) = .error (.packing reason) := by
      rw [(consulted kind).eq_none_of_missing rfl,
        Except.ok.inj ((readBody_of_gives_ofContent (given kind)).symm.trans read), listOf,
        packing]
      rfl
    obtain ⟨all, -, fetched⟩ | ⟨kind, e, result, failed⟩ := outcome
    · cases (lists .categories).symm.trans (fetched .categories)
    · exact ⟨reason, by rw [result, ← Except.error.inj (failed.symm.trans (lists kind))]⟩

/-- Bytes that cannot be unpacked and a body that cannot be packed both make a load raise, although
the catalog server answers for all lists and the cache's server refuses nothing. -/
theorem cache_fails_load :
    let held := ofContent emptyContent [("catalog:categories", ⟨none, [0xC1]⟩)] fun _ => none
    let fresh := ofContent halfContent [] fun _ => none
    (held.client.IsServed ∧ (held.load 0 false).result = .error (.unpacking .badFormat)) ∧
      fresh.client.IsServed ∧ ∃ e, (fresh.load 0 false).result = .error (.packing e) :=
  ⟨undecodable_bytes_fail_load, half_pair_fails_load⟩

end Content

end Source

end Fitout
