import Fitout.Proofs.Source.Fallback
import Fitout.Remote.Operation

/-!
# Answers that are refused

An answer of 400 or above is refused, whatever was asked for, and nothing of it is read, cached or
loaded. Any other answer is read as if all were well, also one that is no success.
-/

namespace Fitout.Remote

inductive Operation where
  | fetchList (kind : Catalog.Kind)
  | categories
  | products
  | productsOfCategory (id : Int)
  | services
  | presets
  | coefficients
  | category (id : Int)
  | product (id : Int)
  | preset (id : Int)
  | create (resource : Resource) (payload : Json)
  | update (resource : Resource) (id : Int) (payload : Json)
  | delete (resource : Resource) (id : Int)

namespace Operation

def Answer : Operation → Type
  | fetchList _ | create _ _ | update _ _ _ => Json
  | categories => List Category
  | products | productsOfCategory _ => List Product
  | services => List Service
  | presets => List Preset
  | coefficients => List Coefficient
  | category _ => Schema.Reading Category
  | product _ => Schema.Reading Product
  | preset _ => Schema.Reading Preset
  | delete _ _ => Unit

def query : Operation → Query
  | fetchList kind => .ofKind kind
  | categories => .ofKind .categories
  | products => .ofKind .products
  | productsOfCategory id => .productsOfCategory id
  | services => .ofKind .services
  | presets => .ofKind .presets
  | coefficients => .ofKind .coefficients
  | category id => .category id
  | product id => .product id
  | preset id => .preset id
  | create resource payload => .create resource payload
  | update resource id payload => .update resource id payload
  | delete resource id => .delete resource id

/-- What is read from the body of an answer. -/
def read : (o : Operation) → Json → o.Answer
  | fetchList _, body | create _ _, body | update _ _ _, body => body
  | categories, body => (Catalog.readCategories body).entities
  | products, body | productsOfCategory _, body => (Catalog.readProducts body).entities
  | services, body => (Catalog.readServices body).entities
  | presets, body => (Catalog.readPresets body).entities
  | coefficients, body => (Catalog.readCoefficients body).entities
  | category _, body => Category.ofJson body
  | product _, body => Product.ofJson body
  | preset _, body => Preset.ofJson body
  | delete _ _, _ => ()

end Operation

namespace Client

def perform (c : Client) (now : Float) : (o : Operation) → Step o.Answer
  | .fetchList kind => c.send now (.ofKind kind)
  | .categories => c.categories now
  | .products => c.products now
  | .productsOfCategory id => c.productsOfCategory now id
  | .services => c.services now
  | .presets => c.presets now
  | .coefficients => c.coefficients now
  | .category id => c.category now id
  | .product id => c.product now id
  | .preset id => c.preset now id
  | .create resource payload => c.create now resource payload
  | .update resource id payload => c.update now resource id payload
  | .delete resource id => c.delete now resource id

/-- Whether the breaker lets a query through and the server answers it. -/
structure IsAnswered (c : Client) (now : Float) (q : Query) (status : Nat) (content : Bytes) :
    Prop where
  admitted : (c.breaker.attempt c.policy now).verdict = .ok ()
  written : c.writeError? q = none
  answered : c.server.rule c.server.received (c.request q) = .answered status content

variable {c : Client} {now : Float} {q : Query} {status : Nat} {content : Bytes}

theorem result_readList {α : Type} (c : Client) (now : Float) (q : Query)
    (check : Json → Catalog.Listing α) : (c.readList now q check).result =
      (c.send now q).result.map fun body => (check body).entities := by
  unfold readList
  dsimp only
  split <;> simp only [*] <;> rfl

theorem result_preset (c : Client) (now : Float) (id : Int) :
    (c.preset now id).result = (c.send now (.preset id)).result.map Preset.ofJson := by
  unfold preset
  dsimp only
  split <;> simp only [*] <;> rfl

/-- An operation gives what it reads from the answer to its query, or the query's error. -/
theorem result_perform (c : Client) (now : Float) (o : Operation) :
    (c.perform now o).result = (c.send now o.query).result.map o.read := by
  cases o with
  | categories | products | productsOfCategory id | services | presets | coefficients =>
    exact c.result_readList now _ _
  | category id | product id | delete resource id => rfl
  | preset id => exact c.result_preset now id
  | fetchList kind | create resource payload | update resource id payload =>
    exact (congrFun Except.map_id _).symm

/-- What an answer to a query comes to. -/
def outcome (c : Client) (q : Query) (status : Nat) (content : Bytes) : Except RequestError Json :=
  if (c.addressOf q).showsScheme = false then .error (.rootless (c.addressOf q).text)
  else if 400 ≤ status then
    match Reply.reason status content with
    | .ok reason => .error (.refused status reason)
    | .error container => .error (.tooDeep container)
  else (Reply.bodyOf content).mapError .tooDeep

theorem outcome_eq_refused_iff {reason : String} :
    c.outcome q status content = .error (.refused status reason) ↔
      400 ≤ status ∧ (c.addressOf q).showsScheme = true ∧
        Reply.reason status content = .ok reason := by
  unfold outcome
  cases (c.addressOf q).showsScheme with
  | false => simp
  | true =>
    by_cases refused : 400 ≤ status
    · cases Reply.reason status content <;> simp [refused]
    · cases Reply.bodyOf content <;> simp [refused, Except.mapError]

theorem outcome_eq_ok_iff {body : Json} :
    c.outcome q status content = .ok body ↔
      status < 400 ∧ (c.addressOf q).showsScheme = true ∧ Reply.bodyOf content = .ok body := by
  unfold outcome
  rw [← Nat.not_le]
  cases (c.addressOf q).showsScheme with
  | false => simp
  | true =>
    by_cases refused : 400 ≤ status
    · cases Reply.reason status content <;> simp [refused]
    · cases Reply.bodyOf content <;> simp [refused, Except.mapError]

theorem result_receive (c : Client) (now : Float) (q : Query) (status : Nat) (content : Bytes) :
    (c.receive now q (.answered status content)).result = c.outcome q status content := by
  unfold receive outcome
  cases (c.addressOf q).showsScheme with
  | false => rfl
  | true =>
    by_cases failed : 500 ≤ status
    · have refused : 400 ≤ status := by omega
      simp only [failed, refused, if_true, Bool.not_true, Bool.true_eq_false, Bool.false_eq_true,
        if_false]
      cases Reply.reason status content <;> rfl
    · by_cases refused : 400 ≤ status
      · simp only [failed, refused, if_true, Bool.not_true, Bool.true_eq_false,
          Bool.false_eq_true, if_false]
        cases Reply.reason status content <;> rfl
      · simp only [failed, refused, Bool.not_true, Bool.true_eq_false, Bool.false_eq_true, if_false]

theorem result_exchange (written : c.writeError? q = none)
    (answered : c.server.rule c.server.received (c.request q) = .answered status content) :
    (c.exchange now q).result = c.outcome q status content := by
  simp only [exchange, written, Server.exchange, answered]
  exact result_receive _ now q status content

theorem IsAnswered.result_send (answered : c.IsAnswered now q status content) :
    (c.send now q).result = c.outcome q status content := by
  simp only [send, ask, answered.admitted]
  exact result_exchange answered.written answered.answered

theorem IsAnswered.refuses_iff {o : Operation} (answered : c.IsAnswered now o.query status content)
    (reason : String) :
    (c.perform now o).result = .error (.refused status reason) ↔
      400 ≤ status ∧ (c.addressOf o.query).showsScheme = true ∧
        Reply.reason status content = .ok reason := by
  rw [result_perform, answered.result_send, ← outcome_eq_refused_iff]
  cases c.outcome o.query status content <;> simp [Except.map]

theorem IsAnswered.returns_iff {o : Operation} (answered : c.IsAnswered now o.query status content)
    (answer : o.Answer) :
    (c.perform now o).result = .ok answer ↔
      status < 400 ∧ (c.addressOf o.query).showsScheme = true ∧
        ∃ body, Reply.bodyOf content = .ok body ∧ o.read body = answer := by
  rw [result_perform, answered.result_send]
  constructor
  · intro returned
    obtain ⟨body, given, same⟩ := of_map_eq_ok returned
    obtain ⟨accepted, rooted, read⟩ := outcome_eq_ok_iff.mp given
    exact ⟨accepted, rooted, body, read, same⟩
  · rintro ⟨accepted, rooted, body, read, rfl⟩
    rw [outcome_eq_ok_iff.mpr ⟨accepted, rooted, read⟩]
    rfl

/-- Whether the server ever answers the query for a list with this body, and is not refused. -/
def Accepts (c : Client) (kind : Catalog.Kind) (body : Json) : Prop :=
  ∃ received status content,
    c.server.rule received (c.request (.ofKind kind)) = .answered status content ∧
      status < 400 ∧ Reply.bodyOf content = .ok body

/-- No body comes from an answer that is refused. -/
theorem serves_accepted (c : Client) :
    Source.Serves (·.setup = c.setup) c.Accepts fun _ _ => True where
  ask d now kind same := ⟨setup_ask.trans same, fun _ _ => trivial⟩
  exchange d now kind same := by
    refine ⟨setup_exchange.trans same, ?_, fun _ _ => trivial⟩
    intro body given
    have request := congr_of_setup_eq same (·.request (.ofKind kind)) fun _ => rfl
    have rule := congr_of_setup_eq same (·.server.rule) fun _ => rfl
    cases written : d.writeError? (.ofKind kind) with
    | some error => simp [exchange, written, giveUp] at given
    | none =>
      cases reply : d.server.rule d.server.received (d.request (.ofKind kind)) with
      | failed fault => simp [exchange, written, Server.exchange, reply, receive] at given
      | answered status content =>
        rw [result_exchange written reply] at given
        obtain ⟨accepted, -, read⟩ := outcome_eq_ok_iff.mp given
        rw [rule, request] at reply
        exact ⟨_, status, content, reply, accepted, read⟩

end Client

end Fitout.Remote

namespace Fitout.Source

variable {s : Source} {force : Bool} {kind : Catalog.Kind} {gives : Catalog.Kind → Json → Prop}
  {refuses : Catalog.Kind → Remote.RequestError → Prop} {held : Option Stored} {events : Journal}

/-- Where the list comes from with which a fetch ended. -/
theorem Progress.origin_of_ended {list : Json}
    (progress : s.Progress force gives refuses kind held events (.ended (.ok list))) :
    s.Consulted force kind events (.ok (some list)) ∨ gives kind list ∨
      kind = .coefficients ∧ list = .list [] := by
  generalize fetch_eq : Fetch.ended (.ok list) = fetch at progress
  cases progress with
  | begun | uncached | asked | answered => cases fetch_eq
  | cached consulted =>
    cases fetch_eq
    exact .inl consulted
  | fetched consulted given kept =>
    cases fetch_eq
    exact .inr (.inl given)
  | undecodable | unpackable => cases fetch_eq
  | @refused _ e consulted refused =>
    cases kind with
    | coefficients =>
      simp only [Fetch.settled, settle] at fetch_eq
      split at fetch_eq
      · cases fetch_eq
        exact .inr (.inr ⟨rfl, rfl⟩)
      · cases fetch_eq
    | _ => cases fetch_eq

/-- What the cache holds for a list comes from a body that was given, or was there before. -/
theorem Progress.origin_of_held {fetch : Fetch}
    (progress : s.Progress force gives refuses kind held events fetch) :
    held = s.stored? kind ∨ ∃ body stored, held = some stored ∧ gives kind body ∧
      MessagePack.encode s.nesting body = .ok stored.bytes := by
  cases progress with
  | fetched consulted given kept =>
    cases kept with
    | skipped | refused => exact .inl rfl
    | stored there packed => exact .inr ⟨_, _, rfl, given, packed⟩
  | _ => exact .inl rfl

/-- An operation that is answered raises the answer's status from 400 on and returns what it reads
below. What a load returns or leaves in the cache comes from answers below 400, or was cached. -/
theorem answers_refused_from_400 (s : Source) :
    (∀ (now : Float) (o : Remote.Operation) (status : Nat) (content : Bytes),
      s.client.IsAnswered now o.query status content →
      (∀ reason, (s.client.perform now o).result = .error (.refused status reason) ↔
        400 ≤ status ∧ (s.client.addressOf o.query).showsScheme = true ∧
          Remote.Reply.reason status content = .ok reason) ∧
      ∀ answer, (s.client.perform now o).result = .ok answer ↔
        status < 400 ∧ (s.client.addressOf o.query).showsScheme = true ∧
          ∃ body, Remote.Reply.bodyOf content = .ok body ∧ o.read body = answer) ∧
    ∀ (force : Bool) (turns : List Turn) (step : Step Catalog.Data),
      s.loadBy force turns = some step →
      (∀ data, step.result = .ok data → ∃ lists : Catalog.Lists Json, lists.data = data ∧
        ∀ kind, s.Consulted force kind (step.events.lookups kind) (.ok (some (lists kind))) ∨
          s.client.Accepts kind (lists kind) ∨ kind = .coefficients ∧ lists kind = .list []) ∧
      ∀ kind, step.source.stored? kind = (s.forget force).1.stored? kind ∨
        ∃ body stored, step.source.stored? kind = some stored ∧ s.client.Accepts kind body ∧
          MessagePack.encode s.nesting body = .ok stored.bytes := by
  refine ⟨fun now o status content answered => ⟨answered.refuses_iff, answered.returns_iff⟩, ?_⟩
  intro force turns step loaded
  obtain ⟨g, g_eq, source, lookups, outcome⟩ := of_loadBy_eq_some loaded
  have underway : g.Underway (s.forget force).1 force (·.setup = s.client.setup) s.client.Accepts
      fun _ _ => True := by
    rw [g_eq]
    refine Gathering.underway_run s.client.serves_accepted (Gathering.underway_start ?_) turns
    rw [client_forget]
  constructor
  · intro data result
    obtain ⟨lists, same, ended⟩ | ⟨kind, e, failed, -⟩ := outcome
    · rw [same] at result
      refine ⟨lists, Except.ok.inj result, ?_⟩
      intro kind
      have progress := underway.progress kind
      rw [ended kind, ← lookups kind] at progress
      exact progress.origin_of_ended.imp_left Consulted.of_forget
    · rw [failed] at result
      cases result
  · intro kind
    rw [source, ← nesting_forget s force]
    exact (underway.progress kind).origin_of_held

/-- A server that is down lets no product be deleted and no catalog be loaded. -/
theorem unavailable_server_is_refused :
    let s : Source := ⟨.ofRule fun _ _ => .answered 503 [], none, none⟩
    (s.client.perform 0 (.delete .product 7)).result = .error (.refused 503 "HTTP 503") ∧
      ∀ data, (s.load 0 false).result ≠ .ok data := by
  intro s
  obtain ⟨operations, loads⟩ := answers_refused_from_400 s
  constructor
  · have answered : s.client.IsAnswered 0 (.delete .product 7) 503 [] := ⟨rfl, rfl, rfl⟩
    have reason : Remote.Reply.reason 503 [] = .ok "HTTP 503" := by cbv
    refine ((operations 0 (.delete .product 7) 503 [] answered).1 _).mpr ⟨by decide, ?_, reason⟩
    exact Remote.Client.showsScheme_ofRule _ _
  · intro data loaded
    obtain ⟨known, -⟩ := loads false _ _ (loadBy_inOrder s 0 false)
    obtain ⟨lists, -, origin⟩ := known data loaded
    obtain consulted | ⟨_, status, content, answer, accepted, -⟩ | ⟨none, -⟩ := origin .categories
    · have missed := consulted.eq_none_of_missing rfl
      cases missed
    · cases answer
      exact absurd accepted (by decide)
    · cases none

section Constant

/-- A server that gives one answer to everything, behind a cache that holds nothing yet. -/
def constant (status : Nat) (content : Bytes) : Source :=
  { ofContent [] [] fun _ => none with client := .ofRule fun _ _ => .answered status content }

variable {status : Nat} {content : Bytes} {body : Json} {bytes : Bytes}

theorem serves_constant (accepted : status < 400) (read : Json.readBody content = .ok body) :
    Serves (constant status content).client.Alike (fun _ given => given = body)
      fun _ _ => False where
  ask d now kind alike := by
    obtain ⟨after, admitted⟩ := alike.ask now (.ofKind kind)
    refine ⟨after, fun e rejected => ?_⟩
    rw [admitted] at rejected
    cases rejected
  exchange d now kind alike := by
    have written : (constant status content).client.writeError? (.ofKind kind) = none := by
      cases kind <;> rfl
    obtain ⟨after, given⟩ := alike.exchange now written
      (Remote.Client.showsScheme_ofRule _ _) rfl accepted read
    refine ⟨after, fun other same => ?_, fun e failed => ?_⟩
    · rw [given] at same
      exact (Except.ok.inj same).symm
    · rw [given] at failed
      cases failed

theorem ended_of_progress_constant {result : Except LoadError Json} (there : body ≠ .null)
    (packed : MessagePack.encode (constant status content).nesting body = .ok bytes)
    (progress : (constant status content).Progress false (fun _ given => given = body)
      (fun _ _ => False) kind held events (.ended result)) :
    result = .ok body ∧ ∃ stored, held = some stored ∧ stored.bytes = bytes := by
  generalize fetch_eq : Fetch.ended result = fetch at progress
  cases progress with
  | begun | uncached | asked | answered => cases fetch_eq
  | cached consulted | undecodable consulted => cases consulted.eq_none_of_missing rfl
  | fetched consulted given kept =>
    subst given
    cases fetch_eq
    refine ⟨rfl, ?_⟩
    cases kept with
    | skipped off =>
      obtain null | off := off
      · exact absurd null there
      · cases off
    | refused _ refused => cases refused
    | @stored stored _ same =>
      exact ⟨stored, rfl, (Except.ok.inj (packed.symm.trans same)).symm⟩
  | unpackable consulted given connected packing =>
    subst given
    rw [packed] at packing
    cases packing
  | refused consulted refused => exact refused.elim

/-- Any answer below 400 is loaded and cached. -/
theorem load_constant (accepted : status < 400) (read : Json.readBody content = .ok body)
    (there : body ≠ .null)
    (packed : MessagePack.encode (constant status content).nesting body = .ok bytes) :
    ((constant status content).load 0 false).result = .ok (Catalog.Lists.data fun _ => body) ∧
      ∀ kind, ∃ stored, ((constant status content).load 0 false).source.stored? kind =
        some stored ∧ stored.bytes = bytes := by
  have each (kind : Catalog.Kind) := Gathering.exists_ended_run false
    (serves_constant accepted read) ⟨rfl, rfl⟩ (isComplete_inOrder 0) kind
  obtain ⟨g, g_eq, source, -, outcome⟩ :=
    of_loadBy_eq_some (loadBy_inOrder (constant status content) 0 false)
  replace g_eq : g = (Gathering.start (constant status content)).run false
    (inOrder 0 Catalog.Kind.all) := g_eq
  rw [← g_eq] at each
  constructor
  · obtain ⟨lists, loaded, fetched⟩ | ⟨kind, e, -, failed⟩ := outcome
    · have lists_eq : lists = fun _ => body := by
        funext kind
        obtain ⟨result, ended, progress⟩ := each kind
        obtain ⟨rfl, -⟩ := ended_of_progress_constant there packed progress
        exact Except.ok.inj (Fetch.ended.inj ((fetched kind).symm.trans ended))
      rw [loaded, lists_eq]
    · obtain ⟨result, ended, progress⟩ := each kind
      obtain ⟨rfl, -⟩ := ended_of_progress_constant there packed progress
      cases ended.symm.trans failed
  · intro kind
    obtain ⟨result, -, progress⟩ := each kind
    rw [source]
    exact (ended_of_progress_constant there packed progress).2

/-- A redirect whose body is a list is returned, loaded and cached. -/
theorem redirect_is_loaded :
    let s := constant 302 emptyContent
    (s.client.perform 0 .categories).result = .ok [] ∧
      (s.load 0 false).result = .ok (Catalog.Lists.data fun _ => .list []) ∧
      ∀ kind, ∃ stored, (s.load 0 false).source.stored? kind = some stored ∧
        stored.bytes = [0x90] := by
  intro s
  refine ⟨?_, load_constant (by decide) readBody_emptyContent (fun null => by cases null) rfl⟩
  have answered : s.client.IsAnswered 0 (.ofKind .categories) 302 emptyContent := ⟨rfl, rfl, rfl⟩
  refine (answered.returns_iff (o := .categories) []).mpr ⟨by decide, ?_, .list [], ?_, rfl⟩
  · exact Remote.Client.showsScheme_ofRule _ _
  · exact Remote.Client.bodyOf_of_readBody readBody_emptyContent

end Constant

end Fitout.Source
