import Fitout.Proofs.Journal.Total
import Fitout.Proofs.Remote.Refusal

/-!
# What requests leave in the breaker and the metrics

A request ends in one of five ways, and the way decides what it raises, what the breaker records and
what is counted. Requests overlap: one that was let through waits for its answer while others are
made. The central relation is that the series in which the events count are, up to their order, the
series of the requests that have ended.
-/

namespace Fitout

namespace Series

/-- The counter of requests to the catalog server. -/
def requests : String := "catalog_upstream_requests_total"

/-- The count of the durations of requests. -/
def durations : String := "catalog_upstream_request_duration_seconds_count"

def request (q : Remote.Query) (status : SendStatus) : Series :=
  ⟨requests, [("method", q.method.name), ("resource", q.resource), ("status", status.label)]⟩

def duration (q : Remote.Query) : Series :=
  ⟨durations, [("resource", q.resource)]⟩

end Series

namespace Remote

/-- What an answer that is taken comes to. -/
def Reply.outcome (status : Nat) (content : Bytes) : Except RequestError Json :=
  if 400 ≤ status then
    match Reply.reason status content with
    | .ok reason => .error (.refused status reason)
    | .error container => .error (.tooDeep container)
  else (Reply.bodyOf content).mapError .tooDeep

/-- How a request ends. -/
inductive Ending where
  /-- The breaker does not let it through. -/
  | rejected (circuit : String) (reason : Breaker.Rejection)
  /-- It cannot be written, so nothing is sent. -/
  | unwritten (error : Json.WriteError)
  | failed (fault : Fault)
  /-- An answer comes from an address without a scheme, and is not taken. -/
  | rootless (address : String)
  | answered (status : Nat) (content : Bytes)

namespace Ending

def isAdmitted : Ending → Bool
  | rejected _ _ => false
  | unwritten _ | failed _ | rootless _ | answered _ _ => true

/-- Whether the server receives the request. -/
def isSent : Ending → Bool
  | rejected _ _ | unwritten _ => false
  | failed _ | rootless _ | answered _ _ => true

/-- Whether the breaker records a failure. -/
def isFailure : Ending → Bool
  | rejected _ _ => false
  | unwritten _ | failed _ | rootless _ => true
  | answered status _ => 500 ≤ status

/-- Whether the request is counted. -/
def isCounted : Ending → Bool
  | unwritten _ | rootless _ => false
  | rejected _ _ | failed _ | answered _ _ => true

def result : Ending → Except RequestError Json
  | rejected circuit reason => .error (.rejected circuit reason)
  | unwritten error => .error (.unwritten error)
  | failed fault => .error (.faulty fault)
  | rootless address => .error (.rootless address)
  | answered status content => Reply.outcome status content

/-- The series that a request counts in, in the order in which it does. -/
def series (q : Query) : Ending → List Series
  | rejected _ _ => [.request q .rejected]
  | unwritten _ | rootless _ => [.duration q]
  | failed _ => [.request q .error, .duration q]
  | answered status _ => [.duration q, .request q (.answered status)]

theorem countP_requests_series (q : Query) (e : Ending) :
    (e.series q).countP (·.name == Series.requests) = if e.isCounted then 1 else 0 := by
  cases e <;> rfl

theorem countP_durations_series (q : Query) (e : Ending) :
    (e.series q).countP (·.name == Series.durations) = if e.isAdmitted then 1 else 0 := by
  cases e <;> rfl

end Ending

namespace Client

variable {c : Client} {now : Float} {q : Query}

/-- How a request ends that was sent. -/
def endingOn (c : Client) (q : Query) : Reply → Ending
  | .failed fault => .failed fault
  | .answered status content =>
    if (c.addressOf q).showsScheme then .answered status content
    else .rootless (c.addressOf q).text

/-- How a request ends that was let through. -/
def endingOf (c : Client) (q : Query) : Ending :=
  match c.writeError? q with
  | some error => .unwritten error
  | none => c.endingOn q (c.server.exchange (c.request q)).1

/-- How a request ends. -/
def ending (c : Client) (now : Float) (q : Query) : Ending :=
  match (c.breaker.attempt c.policy now).verdict with
  | .error reason => .rejected c.policy.name reason
  | .ok () => c.endingOf q

/-- What the breaker comes to when a request ends that was let through. -/
def breakerAfter (c : Client) (now : Float) (e : Ending) : Breaker Float :=
  if e.isFailure then (c.breaker.fail c.policy now).breaker else .closed

/-- What the server comes to when a request ends that was let through. -/
def serverAfter (c : Client) (q : Query) (e : Ending) : Server :=
  if e.isSent then (c.server.exchange (c.request q)).2 else c.server

@[simp] theorem series_circuitEvents (c : Client) (events : List (Breaker.Event Float)) :
    Journal.series (c.circuitEvents events) = [] := by
  rw [Journal.series, circuitEvents, List.filterMap_map]
  exact List.filterMap_eq_nil_iff.mpr fun _ _ => rfl

/-- What a request does that was let through, by how it ends. -/
structure Ends (c : Client) (now : Float) (q : Query) (server : Server) (e : Ending)
    (s : Step Json) : Prop where
  result : s.result = e.result
  client : s.client = { c with breaker := c.breakerAfter now e, server }
  series : Journal.series s.events = e.series q

theorem ends_giveUp {e : Ending} {error : RequestError} (failure : e.isFailure = true)
    (result : e.result = .error error) (series : e.series q = [.duration q]) :
    c.Ends now q c.server e (c.giveUp now q error) where
  result := result.symm
  client := by rw [breakerAfter, if_pos failure]; rfl
  series := by
    have circuit := series_circuitEvents c (c.breaker.fail c.policy now).events
    rw [series]
    exact congrArg (Series.duration q :: ·) circuit

theorem ends_failed (c : Client) (now : Float) (q : Query) (fault : Fault) :
    c.Ends now q c.server (.failed fault) (c.receive now q (.failed fault)) where
  result := rfl
  client := rfl
  series := by
    rw [receive, noteFailure]
    simp only [Journal.series_append, series_circuitEvents, List.append_nil]
    rfl

theorem breaker_noteSuccess (c : Client) :
    c.noteSuccess.1 = { c with breaker := .closed } := by
  simp only [noteSuccess, succeed_eq_closed]

section Answered

variable {status : Nat} {content : Bytes} (rooted : (c.addressOf q).showsScheme = true)

include rooted

theorem client_receive_answered : (c.receive now q (.answered status content)).client =
    { c with breaker := c.breakerAfter now (.answered status content) } := by
  by_cases failed : 500 ≤ status
  · simp only [receive, rooted, failed, breakerAfter, Ending.isFailure, Bool.not_true,
      Bool.false_eq_true, if_false, if_true, decide_true]
    rfl
  · have closed : c.breakerAfter now (.answered status content) = .closed :=
      if_neg (by simpa only [Ending.isFailure, decide_eq_true_eq] using failed)
    rw [closed, ← breaker_noteSuccess]
    simp only [receive, rooted, failed, Bool.not_true, Bool.false_eq_true, if_false]
    split
    · split <;> rfl
    · rfl

theorem series_receive_answered :
    Journal.series (c.receive now q (.answered status content)).events =
      [.duration q, .request q (.answered status)] := by
  by_cases failed : 500 ≤ status
  · simp only [receive, rooted, failed, Bool.not_true, Bool.false_eq_true, if_false, if_true,
      Journal.series_append, noteFailure, series_circuitEvents, List.append_nil]
    rfl
  · simp only [receive, rooted, failed, Bool.not_true, Bool.false_eq_true, if_false]
    split
    · split <;>
        simp only [Journal.series_append, noteSuccess, series_circuitEvents,
          List.append_nil] <;> rfl
    · simp only [Journal.series_append, noteSuccess, series_circuitEvents, List.append_nil]
      rfl

end Answered

theorem ends_answered (rooted : (c.addressOf q).showsScheme = true) (now : Float) (status : Nat)
    (content : Bytes) :
    c.Ends now q c.server (.answered status content)
      (c.receive now q (.answered status content)) where
  result := by
    rw [result_receive, outcome, rooted]
    rfl
  client := client_receive_answered rooted
  series := series_receive_answered rooted

theorem ends_receive (c : Client) (now : Float) (q : Query) (reply : Reply) :
    c.Ends now q c.server (c.endingOn q reply) (c.receive now q reply) := by
  cases reply with
  | failed fault => exact ends_failed c now q fault
  | answered status content =>
    cases rooted : (c.addressOf q).showsScheme with
    | true =>
      rw [endingOn, if_pos rooted]
      exact ends_answered rooted now status content
    | false =>
      have given : c.receive now q (.answered status content) =
          c.giveUp now q (.rootless (c.addressOf q).text) := by
        simp only [receive, rooted, Bool.not_false, if_true]
      rw [endingOn, if_neg (Bool.eq_false_iff.mp rooted), given]
      exact ends_giveUp rfl rfl rfl

/-- What a request does that was let through. -/
theorem ends_exchange (c : Client) (now : Float) (q : Query) :
    c.Ends now q (c.serverAfter q (c.endingOf q)) (c.endingOf q) (c.exchange now q) := by
  cases written : c.writeError? q with
  | some error =>
    have given : c.exchange now q = c.giveUp now q (.unwritten error) := by
      simp only [exchange, written]
    have ending : c.endingOf q = .unwritten error := by
      simp only [endingOf, written]
    rw [given, ending]
    exact ends_giveUp rfl rfl rfl
  | none =>
    have ending : c.endingOf q = c.endingOn q (c.server.exchange (c.request q)).1 := by
      simp only [endingOf, written]
    have sent : (c.endingOf q).isSent = true := by
      rw [ending]
      unfold endingOn
      split
      · rfl
      · split <;> rfl
    have given : c.exchange now q = Client.receive
        { c with server := (c.server.exchange (c.request q)).2 } now q
        (c.server.exchange (c.request q)).1 := by
      simp only [exchange, written]
    rw [serverAfter, if_pos sent, given, ending]
    obtain ⟨result, client, series⟩ := ends_receive
      { c with server := (c.server.exchange (c.request q)).2 } now q
      (c.server.exchange (c.request q)).1
    exact ⟨result, client, series⟩

/-- The client once the breaker was asked, whether it then waits for an answer or not. -/
def admitted (c : Client) (now : Float) : Client :=
  { c with breaker := (c.breaker.attempt c.policy now).breaker }

/-- A request that is not let through is counted as rejected, and that is all that it does besides
what the breaker reports. -/
theorem ask_rejected {reason : Breaker.Rejection}
    (rejects : (c.breaker.attempt c.policy now).verdict = .error reason) :
    (c.ask now q).result = .error (.rejected c.policy.name reason) ∧
      (c.ask now q).client = c.admitted now ∧
      Journal.series (c.ask now q).events = [.request q .rejected] := by
  simp only [ask, rejects, Journal.series_append, series_circuitEvents]
  exact ⟨trivial, rfl, rfl⟩

theorem ask_admitted (admits : (c.breaker.attempt c.policy now).verdict = .ok ()) :
    (c.ask now q).result = .ok () ∧
      (c.ask now q).client = c.admitted now ∧
      Journal.series (c.ask now q).events = [] := by
  simp only [ask, admits, series_circuitEvents]
  exact ⟨trivial, rfl, trivial⟩

theorem send_rejected {reason : Breaker.Rejection}
    (rejects : (c.breaker.attempt c.policy now).verdict = .error reason) :
    (c.send now q).result = .error (.rejected c.policy.name reason) ∧
      (c.send now q).client = c.admitted now ∧
      Journal.series (c.send now q).events = [.request q .rejected] := by
  obtain ⟨result, client, series⟩ := ask_rejected (q := q) rejects
  simp only [send, result, client, series, and_self]

theorem ends_send (admits : (c.breaker.attempt c.policy now).verdict = .ok ()) :
    (c.admitted now).Ends now q (c.serverAfter q (c.endingOf q)) (c.endingOf q) (c.send now q) := by
  obtain ⟨result, client, series⟩ := ask_admitted (q := q) admits
  have ends := ends_exchange (c.admitted now) now q
  have given : c.send now q = { (c.admitted now).exchange now q with
      events := (c.ask now q).events ++ ((c.admitted now).exchange now q).events } := by
    simp only [send, result, client]
  rw [given]
  exact ⟨ends.result, ends.client, by rw [Journal.series_append, series]; exact ends.series⟩

theorem isAdmitted_endingOf (c : Client) (q : Query) : (c.endingOf q).isAdmitted = true := by
  unfold endingOf endingOn
  split
  · rfl
  · split
    · rfl
    · split <;> rfl

/-- What a request does that ends in a way: whether the breaker lets it through, what it raises or
gives, what the breaker and the server come to, and what it counts in. -/
def Does (c : Client) (now : Float) (q : Query) (s : Step Json) : Ending → Prop
  | .rejected circuit reason =>
    (c.breaker.attempt c.policy now).verdict = .error reason ∧
      s.result = .error (.rejected circuit reason) ∧ s.client = c.admitted now ∧
      Journal.series s.events = [.request q .rejected]
  | .unwritten error =>
    (c.breaker.attempt c.policy now).verdict = .ok () ∧ s.result = .error (.unwritten error) ∧
      s.client = ((c.admitted now).noteFailure now).1 ∧
      Journal.series s.events = [.duration q]
  | .failed fault =>
    (c.breaker.attempt c.policy now).verdict = .ok () ∧ s.result = .error (.faulty fault) ∧
      s.client = { ((c.admitted now).noteFailure now).1 with
        server := (c.server.exchange (c.request q)).2 } ∧
      Journal.series s.events = [.request q .error, .duration q]
  | .rootless address =>
    (c.breaker.attempt c.policy now).verdict = .ok () ∧ s.result = .error (.rootless address) ∧
      s.client = { ((c.admitted now).noteFailure now).1 with
        server := (c.server.exchange (c.request q)).2 } ∧
      Journal.series s.events = [.duration q]
  | .answered status content =>
    (c.breaker.attempt c.policy now).verdict = .ok () ∧
      s.result = Reply.outcome status content ∧
      s.client = { (if 500 ≤ status then ((c.admitted now).noteFailure now).1
        else { c with breaker := .closed }) with server := (c.server.exchange (c.request q)).2 } ∧
      Journal.series s.events = [.duration q, .request q (.answered status)]

theorem does_send (c : Client) (now : Float) (q : Query) :
    c.Does now q (c.send now q) (c.ending now q) := by
  cases verdict : (c.breaker.attempt c.policy now).verdict with
  | error reason =>
    simp only [ending, verdict]
    exact ⟨verdict, send_rejected verdict⟩
  | ok _ =>
    simp only [ending, verdict]
    obtain ⟨result, client, series⟩ := ends_send (q := q) verdict
    have admitted := isAdmitted_endingOf c q
    generalize c.endingOf q = e at result client series admitted
    cases e with
    | rejected circuit reason => cases admitted
    | unwritten error | failed fault | rootless address =>
      exact ⟨verdict, result, client, series⟩
    | answered status content =>
      refine ⟨verdict, result, client.trans ?_, series⟩
      by_cases failed : 500 ≤ status <;>
        simp only [breakerAfter, serverAfter, Ending.isFailure, Ending.isSent, failed, decide_true,
          decide_false, Bool.false_eq_true, if_true, if_false] <;> rfl

end Client

/-- A request that was made: let through and not answered yet, or ended. -/
inductive Call where
  | waiting (requestId : Option String) (q : Query)
  | ended (q : Query) (e : Ending)

namespace Call

def isWaiting : Call → Bool
  | waiting _ _ => true
  | ended _ _ => false

def isAdmitted : Call → Bool
  | waiting _ _ => true
  | ended _ e => e.isAdmitted

/-- Whether the request has ended without being counted. -/
def isUncounted : Call → Bool
  | waiting _ _ => false
  | ended _ e => !e.isCounted

def series : Call → List Series
  | waiting _ _ => []
  | ended q e => e.series q

end Call

/-- Overlapping requests of one client, with the events so far. -/
structure Traffic where
  client : Client
  calls : List Call
  events : Journal

namespace Traffic

inductive Action where
  /-- A request is made while a visitor's request is served, which has an id or none. -/
  | ask (now : Float) (requestId : Option String) (q : Query)
  /-- The request at a place gets its answer, if it waits for one. -/
  | answer (now : Float) (place : Nat)

def Action.isAsk : Action → Bool
  | ask _ _ _ => true
  | answer _ _ => false

def start (c : Client) : Traffic :=
  ⟨c, [], []⟩

def step (t : Traffic) : Action → Traffic
  | .ask now requestId q =>
    let c := { t.client with requestId }
    let asked := c.ask now q
    let call : Call := match (c.breaker.attempt c.policy now).verdict with
      | .ok () => .waiting requestId q
      | .error reason => .ended q (.rejected c.policy.name reason)
    ⟨asked.client, t.calls ++ [call], t.events ++ asked.events⟩
  | .answer now place =>
    match t.calls[place]? with
    | some (.waiting requestId q) =>
      let c := { t.client with requestId }
      let answer := c.exchange now q
      ⟨answer.client, t.calls.set place (.ended q (c.endingOf q)), t.events ++ answer.events⟩
    | some (.ended _ _) | none => t

def run (t : Traffic) (actions : List Action) : Traffic :=
  actions.foldl step t

/-- The client while it serves a visitor's request. -/
def serving (t : Traffic) (requestId : Option String) : Client :=
  { t.client with requestId }

/-- What an action can come to. -/
inductive Effect (t : Traffic) : Action → Traffic → Prop where
  | rejected {now : Float} {requestId : Option String} {q : Query} {reason : Breaker.Rejection}
      (rejects : (t.client.breaker.attempt t.client.policy now).verdict = .error reason) :
      t.Effect (.ask now requestId q) ⟨((t.serving requestId).ask now q).client,
        t.calls ++ [.ended q (.rejected t.client.policy.name reason)],
        t.events ++ ((t.serving requestId).ask now q).events⟩
  | admitted {now : Float} {requestId : Option String} {q : Query}
      (admits : (t.client.breaker.attempt t.client.policy now).verdict = .ok ()) :
      t.Effect (.ask now requestId q) ⟨((t.serving requestId).ask now q).client,
        t.calls ++ [.waiting requestId q],
        t.events ++ ((t.serving requestId).ask now q).events⟩
  | answered {now : Float} {place : Nat} {requestId : Option String} {q : Query}
      (waits : t.calls[place]? = some (.waiting requestId q)) :
      t.Effect (.answer now place) ⟨((t.serving requestId).exchange now q).client,
        t.calls.set place (.ended q ((t.serving requestId).endingOf q)),
        t.events ++ ((t.serving requestId).exchange now q).events⟩
  | idle {now : Float} {place : Nat} : t.Effect (.answer now place) t

theorem effect_step (t : Traffic) (action : Action) : t.Effect action (t.step action) := by
  cases action with
  | ask now requestId q =>
    cases verdict : (t.client.breaker.attempt t.client.policy now).verdict with
    | ok _ =>
      simp only [step, verdict]
      exact .admitted verdict
    | error reason =>
      simp only [step, verdict]
      exact .rejected verdict
  | answer now place =>
    match there : t.calls[place]? with
    | some (.waiting requestId q) =>
      simp only [step, there]
      exact .answered there
    | some (.ended q e) | none =>
      simp only [step, there]
      exact .idle

variable {t u : Traffic} {action : Action}

section Balance

/-- The events count in the series of the requests that have ended. -/
def Balanced (t : Traffic) : Prop :=
  (Journal.series t.events).Perm (t.calls.flatMap Call.series)

/-- A request that ends brings its series in. -/
theorem flatMap_set_perm {calls : List Call} {place : Nat} {requestId : Option String} {q : Query}
    (waits : calls[place]? = some (.waiting requestId q)) (e : Ending) :
    ((calls.set place (.ended q e)).flatMap Call.series).Perm
      (calls.flatMap Call.series ++ e.series q) := by
  induction calls generalizing place with
  | nil => cases waits
  | cons call rest inductionHypothesis =>
    cases place with
    | zero =>
      obtain rfl := Option.some.inj waits
      exact List.perm_append_comm
    | succ place =>
      have later := @inductionHypothesis place waits
      simp only [List.set_cons_succ, List.flatMap_cons, List.append_assoc]
      exact later.append_left _

theorem Balanced.of_effect (balanced : t.Balanced) (effect : t.Effect action u) : u.Balanced := by
  cases effect with
  | idle => exact balanced
  | @rejected now requestId q reason rejects =>
    have series := (Client.ask_rejected (c := t.serving requestId) (q := q) rejects).2.2
    simp only [Balanced, Journal.series_append, List.flatMap_append, series]
    exact balanced.append_right _
  | @admitted now requestId q admits =>
    have series := (Client.ask_admitted (c := t.serving requestId) (q := q) admits).2.2
    simp only [Balanced, Journal.series_append, List.flatMap_append, series]
    exact balanced.append_right _
  | @answered now place requestId q waits =>
    have series := (Client.ends_exchange (t.serving requestId) now q).series
    simp only [Balanced, Journal.series_append, series]
    exact (balanced.append_right _).trans (flatMap_set_perm waits _).symm

theorem Balanced.run (balanced : t.Balanced) (actions : List Action) :
    (t.run actions).Balanced := by
  induction actions generalizing t with
  | nil => exact balanced
  | cons action rest inductionHypothesis =>
    exact inductionHypothesis (balanced.of_effect (t.effect_step action))

end Balance

section Calls

theorem length_calls_effect (effect : t.Effect action u) :
    u.calls.length = t.calls.length + if action.isAsk then 1 else 0 := by
  cases effect with
  | rejected | admitted => simp [Action.isAsk]
  | answered => simp [Action.isAsk]
  | idle => rfl

theorem length_calls_run (actions : List Action) :
    (t.run actions).calls.length = t.calls.length + actions.countP Action.isAsk := by
  induction actions generalizing t with
  | nil => rfl
  | cons action rest inductionHypothesis =>
    have later : (t.run (action :: rest)).calls.length = _ :=
      inductionHypothesis (t := t.step action)
    rw [later, length_calls_effect (t.effect_step action), List.countP_cons]
    omega

/-- Each request is counted, or still waits, or has ended without being counted. -/
theorem countP_requests_flatMap (calls : List Call) :
    (calls.flatMap Call.series).countP (·.name == Series.requests) +
      calls.countP Call.isWaiting + calls.countP Call.isUncounted = calls.length := by
  induction calls with
  | nil => rfl
  | cons call rest inductionHypothesis =>
    have own : call.series.countP (·.name == Series.requests) +
        (if call.isWaiting then 1 else 0) + (if call.isUncounted then 1 else 0) = 1 := by
      cases call with
      | waiting requestId q => rfl
      | ended q e =>
        rw [Call.series, Ending.countP_requests_series]
        by_cases counted : e.isCounted <;> simp [Call.isWaiting, Call.isUncounted, counted]
    simp only [List.flatMap_cons, List.countP_append, List.countP_cons, List.length_cons]
    omega

/-- Each request that was let through is timed, or still waits. -/
theorem countP_durations_flatMap (calls : List Call) :
    (calls.flatMap Call.series).countP (·.name == Series.durations) +
      calls.countP Call.isWaiting = calls.countP Call.isAdmitted := by
  induction calls with
  | nil => rfl
  | cons call rest inductionHypothesis =>
    have own : call.series.countP (·.name == Series.durations) +
        (if call.isWaiting then 1 else 0) = if call.isAdmitted then 1 else 0 := by
      cases call with
      | waiting requestId q => rfl
      | ended q e =>
        rw [Call.series, Ending.countP_durations_series]
        rfl
    simp only [List.flatMap_cons, List.countP_append, List.countP_cons]
    omega

end Calls

section Sendable

/-- Whether a query can be sent while a visitor's request is served: all that is sent can be
written, and the address has a scheme. -/
structure IsSendable (c : Client) (requestId : Option String) (q : Query) : Prop where
  written : Client.writeError? { c with requestId } q = none
  rooted : (c.addressOf q).showsScheme = true

/-- Whether an action makes a request that can be sent, if it makes one. -/
def Action.IsSendable (c : Client) : Action → Prop
  | ask _ requestId q => Traffic.IsSendable c requestId q
  | answer _ _ => True

variable {c : Client}

theorem IsSendable.isCounted_endingOf {requestId : Option String} {q : Query}
    (sendable : IsSendable c requestId q)
    (same : (t.serving requestId).setup = Client.setup { c with requestId }) :
    ((t.serving requestId).endingOf q).isCounted = true := by
  have written : (t.serving requestId).writeError? q = none :=
    (Client.congr_of_setup_eq same (·.writeError? q) fun _ => rfl).trans sendable.written
  have rooted : ((t.serving requestId).addressOf q).showsScheme = true :=
    (Client.congr_of_setup_eq same (fun d => (d.addressOf q).showsScheme) fun _ => rfl).trans
      sendable.rooted
  simp only [Client.endingOf, written]
  unfold Client.endingOn
  split
  · rfl
  · rw [if_pos rooted]
    rfl

/-- Whether a call can be sent, or was counted when it ended. -/
def IsCountable (c : Client) : Call → Prop
  | .waiting requestId q => IsSendable c requestId q
  | .ended _ e => e.isCounted = true

/-- The client is the same but for the breaker and the server, and all calls are counted in the
end. -/
structure Sendable (c : Client) (t : Traffic) : Prop where
  setup : ∀ requestId, (t.serving requestId).setup = Client.setup { c with requestId }
  countable : ∀ call ∈ t.calls, IsCountable c call

theorem Sendable.of_effect (sendable : Sendable c t) (can : action.IsSendable c)
    (effect : t.Effect action u) : Sendable c u := by
  have next (d : Client) (requestId : Option String)
      (same : d.setup = (t.serving requestId).setup) (other : Option String) :
      Client.setup { d with requestId := other } = Client.setup { c with requestId := other } :=
    (congrArg (fun d : Client => { d with requestId := other }) same).trans (sendable.setup other)
  have made (call : Call) (countable : IsCountable c call) :
      ∀ made ∈ t.calls ++ [call], IsCountable c made :=
    List.forall_mem_append.mpr ⟨sendable.countable, List.forall_mem_singleton.mpr countable⟩
  cases effect with
  | idle => exact sendable
  | @rejected now requestId q reason rejects =>
    exact ⟨next _ requestId Client.setup_ask, made _ rfl⟩
  | @admitted now requestId q admits =>
    exact ⟨next _ requestId Client.setup_ask, made _ can⟩
  | @answered now place requestId q waits =>
    refine ⟨next _ requestId Client.setup_exchange, ?_⟩
    intro call member
    obtain old | rfl := List.mem_or_eq_of_mem_set member
    · exact sendable.countable call old
    · have before : IsSendable c requestId q :=
        sendable.countable _ (List.mem_of_getElem? waits)
      exact before.isCounted_endingOf (sendable.setup requestId)

theorem Sendable.run (sendable : Sendable c t) {actions : List Action}
    (can : ∀ action ∈ actions, action.IsSendable c) : Sendable c (t.run actions) := by
  induction actions generalizing t with
  | nil => exact sendable
  | cons action rest inductionHypothesis =>
    obtain ⟨first, later⟩ := List.forall_mem_cons.mp can
    exact inductionHypothesis (sendable.of_effect first (t.effect_step action)) later

theorem Sendable.countP_isUncounted (sendable : Sendable c t) :
    t.calls.countP Call.isUncounted = 0 := by
  rw [List.countP_eq_zero]
  intro call member
  cases call with
  | waiting requestId q => exact Bool.false_ne_true
  | ended q e =>
    have counted : e.isCounted = true := sendable.countable _ member
    simp [Call.isUncounted, counted]

end Sendable

end Traffic

/-- A request ends in one of five ways, by which it is known what it does. However requests overlap,
each is counted once it has ended, unless it could not be written or its answer came from an address
without a scheme, and each that was let through is timed. -/
theorem requests_are_counted_unless_unsendable (c : Client) :
    (∀ now q, c.Does now q (c.send now q) (c.ending now q)) ∧
    ∀ actions : List Traffic.Action,
      let t := (Traffic.start c).run actions
      (∀ s, t.events.count s = (t.calls.flatMap Call.series).count s) ∧
      t.calls.length = actions.countP Traffic.Action.isAsk ∧
      t.events.total Series.requests + t.calls.countP Call.isWaiting +
        t.calls.countP Call.isUncounted = t.calls.length ∧
      t.events.total Series.durations + t.calls.countP Call.isWaiting =
        t.calls.countP Call.isAdmitted ∧
      ((∀ action ∈ actions, action.IsSendable c) → t.calls.countP Call.isUncounted = 0) := by
  refine ⟨c.does_send, ?_⟩
  intro actions t
  have balanced : t.Balanced := Traffic.Balanced.run (t := .start c) .nil actions
  have requests : t.events.total Series.requests = _ := Journal.total_eq (by decide) t.events
  have durations : t.events.total Series.durations = _ := Journal.total_eq (by decide) t.events
  rw [balanced.countP_eq] at requests durations
  refine ⟨?_, ?_, ?_, ?_, ?_⟩
  · intro s
    rw [Journal.count_eq, balanced.count_eq]
  · exact (Traffic.length_calls_run actions).trans (Nat.zero_add _)
  · rw [requests]
    exact Traffic.countP_requests_flatMap t.calls
  · rw [durations]
    exact Traffic.countP_durations_flatMap t.calls
  · intro can
    have started : Traffic.Sendable c (.start c) :=
      ⟨fun _ => rfl, fun _ none => absurd none List.not_mem_nil⟩
    exact (started.run can).countP_isUncounted

/-- Neither of two overlapping requests gets an answer. -/
theorem overlapping_requests_are_counted :
    let c := Client.ofRule fun _ _ => .failed ⟨"ConnectError", "no route to host"⟩
    let actions : List Traffic.Action :=
      [.ask 0 none (.ofKind .categories), .ask 1 (some "r1") (.ofKind .products), .answer 2 1,
        .answer 3 0]
    let t := (Traffic.start c).run actions
    (∀ action ∈ actions, action.IsSendable c) ∧ t.events.total Series.requests = 2 ∧
      t.events.total Series.durations = 2 := by
  intro c actions t
  have can : ∀ action ∈ actions, action.IsSendable c := by
    simp only [actions, List.forall_mem_cons, Traffic.Action.IsSendable]
    exact ⟨⟨rfl, Client.showsScheme_ofRule _ _⟩, ⟨rfl, Client.showsScheme_ofRule _ _⟩, trivial,
      trivial, fun _ none => absurd none List.not_mem_nil⟩
  obtain ⟨_, length, requests, durations, counted⟩ :=
    (requests_are_counted_unless_unsendable c).2 actions
  have made : actions.countP Traffic.Action.isAsk = 2 := rfl
  have waiting : t.calls.countP Call.isWaiting = 0 := rfl
  have admitted : t.calls.countP Call.isAdmitted = 2 := rfl
  rw [counted can, length, made, waiting] at requests
  rw [waiting, admitted] at durations
  exact ⟨can, requests, durations⟩

/-- An answer that is to be refused and whose content is too deep is not raised as a refusal. -/
theorem result_send_of_tooDeep {c : Client} {now : Float} {q : Query} {status : Nat}
    {content : Bytes} {container : Json.Container}
    (answered : c.IsAnswered now q status content) (rooted : (c.addressOf q).showsScheme = true)
    (refused : 400 ≤ status) (read : Json.readBody content = .error (.tooDeep container)) :
    (c.send now q).result = .error (.tooDeep container) := by
  have reason : Reply.reason status content = .error container := by
    simp only [Reply.reason, Reply.jsonOf?, read]
    rfl
  simp only [answered.result_send, Client.outcome, rooted, Bool.true_eq_false, if_false, refused,
    if_true, reason]

/-- An answer of 503 that opens too many lists is recorded as a failure and counted, but what is
raised is not the refusal. A request whose token is not ASCII is recorded as a failure and timed,
but it is not counted. -/
theorem deep_answer_is_not_refused :
    let deep := List.replicate 100000 Json.bracketByte
    let c := Client.ofRule fun _ _ => .answered 503 deep
    let d : Client :=
      { Client.ofRule fun _ _ => .answered 200 Source.emptyContent with token := some "é" }
    let t := (Traffic.start d).run [.ask 0 none (.ofKind .coefficients), .answer 0 0]
    (c.send 0 (.ofKind .services)).result = .error (.tooDeep .list) ∧
      t.calls.length = 1 ∧ t.calls.countP Call.isWaiting = 0 ∧
      t.events.total Series.requests = 0 ∧ t.events.total Series.durations = 1 ∧
      t.client.breaker.failures = 1 := by
  intro deep c d t
  have read : Json.readBody deep = .error (.tooDeep .list) := Json.readBody_brackets (by decide)
  refine ⟨?_, rfl, rfl, ?_, ?_, rfl⟩
  · clear_value deep
    have answered : c.IsAnswered 0 (.ofKind .services) 503 deep := ⟨rfl, rfl, rfl⟩
    exact result_send_of_tooDeep answered (Client.showsScheme_ofRule _ _) (by decide) read
  · decide +kernel
  · decide +kernel

end Remote

end Fitout
