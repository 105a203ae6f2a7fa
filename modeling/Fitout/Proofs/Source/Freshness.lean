import Fitout.Proofs.Source.Overlap
import Fitout.Proofs.Source.Reload

/-!
# Where lists come from once a refresh is forced

From the start of a forced refresh on, the lists of that refresh and of later ones were answered
after that start, with two exceptions. A body that another load had in hand at that start is cached
after the cache was dropped, and later loads read it there. And a load that started later but looked
its lists up before the cache was dropped found what was there. Each step keeps this.
-/

namespace Fitout

namespace Cache

theorem startsWith_key (kind : Catalog.Kind) : (key kind.name).startsWith keyStart = true := by
  cases kind <;> decide +kernel

/-- Where no command is refused, nothing is left. -/
theorem get?_invalidateAll {c : Cache} (on : c.connected = true)
    (takes : ∀ number, c.server.refusal number = none) {name : String}
    (starts : name.startsWith keyStart = true) :
    c.invalidateAll.cache.server.get? name = none := by
  simp only [invalidateAll, on, Bool.not_true, Bool.false_eq_true, if_false,
    KeyValueServer.send, takes]
  split
  · rename_i empty
    cases held : c.server.get? name with
    | none => exact held
    | some stored =>
      have listed := KeyValueServer.mem_keysOf_of_get? held starts
      have none : c.server.keysOf keyStart = [] := List.length_eq_zero_iff.mp (beq_iff_eq.mp empty)
      rw [none] at listed
      cases listed
  · exact KeyValueServer.get?_removeAll starts

end Cache

namespace Remote.Client

variable {c : Client} {now : Float} {q : Query}

theorem server_ask : (c.ask now q).client.server = c.server := by
  unfold ask
  dsimp only
  split <;> rfl

theorem server_receive {reply : Reply} : (c.receive now q reply).client.server = c.server := by
  unfold receive
  split
  · rfl
  · dsimp only
    split
    · rfl
    · split
      · rfl
      · split
        · split <;> rfl
        · rfl

/-- A request that is sent is received. -/
theorem received_exchange (now : Float) (writable : c.writeError? q = none) :
    (c.exchange now q).client.server.received ≠ [] := by
  simp only [exchange, writable, server_receive, Server.exchange]
  exact List.append_ne_nil_of_right_ne_nil _ (List.cons_ne_nil _ _)

end Remote.Client

namespace Source

/-- A cache that was dropped holds nothing of a catalog. -/
theorem held?_forget_forced {s : Source} (on : s.isConnected = true)
    (takes : ∀ number, s.refusal? number = none) {key : String}
    (starts : key.startsWith Cache.keyStart = true) : (s.forget true).1.held? key = none := by
  unfold forget
  split
  · rename_i none
    simp only [held?, none, Option.bind_none]
  · rename_i cache some
    rw [isConnected_of_cache_eq_some some] at on
    rw [refusal?_of_cache_eq_some some] at takes
    simp only [if_true, held?, Option.bind_some]
    exact Cache.get?_invalidateAll on takes starts

theorem stored?_forget_forced {s : Source} (on : s.isConnected = true)
    (takes : ∀ number, s.refusal? number = none) (kind : Catalog.Kind) :
    (s.forget true).1.stored? kind = none :=
  held?_forget_forced on takes (Cache.startsWith_key kind)

end Source

namespace Overlap

open Catalog

/-- The list and the body, where an action brings an answer of the server. -/
def answered? (c : Overlap) : Action → Option (Kind × Json)
  | .turn place turn =>
    (c.fetching? place).bind fun load =>
      match load.fetches turn.kind with
      | .asked =>
        (c.source.client.exchange turn.now (.ofKind turn.kind)).result.toOption.map (turn.kind, ·)
      | _ => none
  | _ => none

/-- The refresh, the list and the body, where an action finds one in the cache. -/
def found? (c : Overlap) : Action → Option (Nat × Kind × Json)
  | .turn place turn =>
    (c.fetching? place).bind fun load =>
      match load.fetches turn.kind with
      | .begun => (c.source.lookup load.force turn.kind).fetch.body?.map (place, turn.kind, ·)
      | _ => none
  | _ => none

/-- Whether the load at a place has still to drop the cache. -/
def isForgetting (c : Overlap) (place : Nat) : Bool :=
  c.loads[place]?.any (·.isForgetting)

/-- What an action finds in the cache before the load at a place has dropped it. -/
def foundBefore? (forced : Nat) (c : Overlap) (action : Action) : Option (Nat × Kind × Json) :=
  if c.isForgetting forced then c.found? action else none

/-- What is observed along a run. -/
def observed {α : Type} (observe : Overlap → Action → Option α) (c : Overlap) :
    List Action → List α
  | [] => []
  | action :: rest => (observe c action).toList ++ observed observe (c.step action) rest

/-- Some load has a body in hand that it is about to cache. -/
def Unsaved (c : Overlap) (kind : Kind) (body : Json) : Prop :=
  ∃ load ∈ c.loads, load.fetches kind = .answered body

/-- Where a list of a refresh comes from, given the answers and what was found before the cache was
dropped, and the bodies that were in hand before. -/
inductive Origin (unsaved : Kind → Json → Prop) (answers : List (Kind × Json))
    (early : List (Nat × Kind × Json)) (place : Nat) (kind : Kind) : Json → Prop where
  | answered {body : Json} (given : (kind, body) ∈ answers) :
      Origin unsaved answers early place kind body
  | cached {body : Json} (given : (kind, body) ∈ answers) :
      Origin unsaved answers early place kind body.packed
  | missing (coefficients : kind = .coefficients) :
      Origin unsaved answers early place kind (.list [])
  | late {body : Json} (held : unsaved kind body) :
      Origin unsaved answers early place kind body.packed
  | early {body : Json} (found : (place, kind, body) ∈ early) :
      Origin unsaved answers early place kind body

variable {unsaved : Kind → Json → Prop} {answers moreAnswers : List (Kind × Json)}
  {early moreEarly : List (Nat × Kind × Json)} {forced : Nat} {c : Overlap}

theorem Origin.mono {place : Nat} {kind : Kind} {body : Json}
    (origin : Origin unsaved answers early place kind body) (known : answers ⊆ moreAnswers)
    (found : early ⊆ moreEarly) : Origin unsaved moreAnswers moreEarly place kind body := by
  cases origin with
  | answered given => exact .answered (known given)
  | cached given => exact .cached (known given)
  | missing coefficients => exact .missing coefficients
  | late held => exact .late held
  | early before => exact .early (found before)

/-- A body that is about to be cached is one that can be read again. -/
def Ready (c : Overlap) : Prop :=
  ∀ load ∈ c.loads, ∀ kind body, load.fetches kind = .answered body →
    body ≠ .null ∧ body.Shaped Json.depthLimit

/-- What holds from the start of a forced refresh on. -/
structure Fresh (unsaved : Kind → Json → Prop) (answers : List (Kind × Json))
    (early : List (Nat × Kind × Json)) (forced : Nat) (c : Overlap) : Prop where
  takes : ∀ number, c.source.refusal? number = none
  isForced : ∃ load, c.loads[forced]? = some load ∧ load.force = true
  held : c.isForgetting forced = false → c.source.isConnected = true →
    ∀ kind stored body, c.source.stored? kind = some stored → stored.body? = .ok (some body) →
      ∃ given, body = given.packed ∧ ((kind, given) ∈ answers ∨ unsaved kind given)
  pending : ∀ place load, c.loads[place]? = some load →
    ∀ kind body, load.fetches kind = .answered body →
      (kind, body) ∈ answers ∨ place < forced ∧ unsaved kind body
  ended : ∀ place load, forced ≤ place → c.loads[place]? = some load →
    ∀ kind body, load.fetches kind = .ended (.ok body) →
      Origin unsaved answers early place kind body

theorem Fresh.mono (fresh : Fresh unsaved answers early forced c) :
    Fresh unsaved (answers ++ moreAnswers) (early ++ moreEarly) forced c where
  takes := fresh.takes
  isForced := fresh.isForced
  held dropped on kind stored body held read := by
    obtain ⟨given, packed, known⟩ := fresh.held dropped on kind stored body held read
    exact ⟨given, packed, known.imp_left (List.mem_append_left _)⟩
  pending place load there kind body answered :=
    (fresh.pending place load there kind body answered).imp_left (List.mem_append_left _)
  ended place load after there kind body ended :=
    (fresh.ended place load after there kind body ended).mono (List.subset_append_left _ _)
      (List.subset_append_left _ _)

section Steps

variable {place : Nat} {load : Loading} {turn : Turn}

/-- What becomes of a list's fetch in a step of its own, and in one of another. -/
theorem fetches_taken {kind : Kind} {f : Fetch}
    (fetch : (load.takeUp ((load.gathering c.source).put turn.kind
      (c.source.advance turn.now load.force turn.kind (load.fetches turn.kind)))).fetches kind =
        f) :
    kind = turn.kind ∧
        ((c.source.advance turn.now load.force turn.kind
          (load.fetches turn.kind)).fetch.settled turn.kind).1 = f ∨
      load.fetches kind = f := by
  by_cases same : kind = turn.kind
  · subst same
    exact .inl ⟨rfl, (Gathering.fetches_put_self _).symm.trans fetch⟩
  · exact .inr ((Gathering.fetches_put_of_ne same _).symm.trans fetch)

theorem answered?_of_asked {body : Json} (fetching : c.fetching? place = some load)
    (asked : load.fetches turn.kind = .asked)
    (given : (c.source.client.exchange turn.now (.ofKind turn.kind)).result = .ok body) :
    c.answered? (.turn place turn) = some (turn.kind, body) := by
  simp only [answered?, fetching, Option.bind_some, asked, given]
  rfl

theorem found?_of_begun {body : Json} (fetching : c.fetching? place = some load)
    (begun : load.fetches turn.kind = .begun)
    (found : (c.source.lookup load.force turn.kind).fetch = .ended (.ok body)) :
    c.found? (.turn place turn) = some (place, turn.kind, body) := by
  simp only [found?, fetching, Option.bind_some, begun, found]
  rfl

theorem ready_step (ready : c.Ready) (action : Action) : (c.step action).Ready := by
  have effect := c.effect_step action
  generalize c.step action = d at effect
  cases effect with
  | idle | finished | expired => exact ready
  | started force =>
    intro load member
    obtain old | new := List.mem_append.mp member
    · exact ready load old
    · obtain rfl := List.mem_singleton.mp new
      exact fun kind body answered => nomatch answered
  | @forgot place load there still =>
    intro other member
    obtain old | rfl := List.mem_or_eq_of_mem_set member
    · exact ready other old
    · exact ready load (List.mem_of_getElem? there)
  | @turned place load turn there _ open_ =>
    intro other member kind body answered
    obtain old | rfl := List.mem_or_eq_of_mem_set member
    · exact ready other old kind body answered
    · obtain ⟨rfl, next⟩ | kept := fetches_taken answered
      · obtain ⟨-, given, there⟩ := Source.answered_of_advance open_ next
        exact ⟨there, (Remote.Client.answers_of_exchange_eq_ok rfl given).shaped⟩
      · exact ready load (List.mem_of_getElem? there) kind body kept

theorem ready_run (ready : c.Ready) (actions : List Action) : (c.run actions).Ready := by
  induction actions generalizing c with
  | nil => exact ready
  | cons action rest inductionHypothesis => exact inductionHypothesis (ready_step ready action)

/-- The load of the forced refresh is there, and stays forced. -/
theorem isForgetting_of_getElem? (there : c.loads[place]? = some load) :
    c.isForgetting place = load.isForgetting := by
  rw [isForgetting, there]
  rfl

/-- A load that has just started is at the beginning of all its fetches. -/
theorem of_getElem?_append_start {loads : List Loading} {force : Bool} {kind : Kind} {f : Fetch}
    (there : (loads ++ [.start force])[place]? = some load) (fetch : load.fetches kind = f)
    (begun : f ≠ .begun) : loads[place]? = some load := by
  rw [List.getElem?_append] at there
  split at there
  · exact there
  · obtain rfl := List.mem_singleton.mp (List.mem_of_getElem? there)
    exact absurd fetch.symm begun

theorem Fresh.started (fresh : Fresh unsaved answers early forced c) (force : Bool) :
    Fresh unsaved answers early forced (c.step (.start force)) := by
  obtain ⟨load, there, isForced⟩ := fresh.isForced
  have kept : (c.loads ++ [.start force])[forced]? = some load :=
    List.getElem?_append_left (List.getElem?_eq_some_iff.mp there).1 ▸ there
  refine ⟨fresh.takes, ⟨load, kept, isForced⟩, fun dropped => fresh.held ?_, ?_, ?_⟩
  · rw [isForgetting_of_getElem? there]
    exact (isForgetting_of_getElem? kept).symm.trans dropped
  · intro place load there kind body answered
    have there := of_getElem?_append_start there answered (by simp)
    exact fresh.pending place load there kind body answered
  · intro place load after there kind body ended
    have there := of_getElem?_append_start there ended (by simp)
    exact fresh.ended place load after there kind body ended

theorem Fresh.forgot (fresh : Fresh unsaved answers early forced c)
    (there : c.loads[place]? = some load) :
    Fresh unsaved answers early forced
      { c with
        source := (c.source.forget load.force).1
        loads := c.loads.set place { load with isForgetting := false } } := by
  have same : (c.source.forget load.force).1.setup = c.source.setup := Source.setup_forget _ _
  have at_ {index : Nat} {other : Loading}
      (found : (c.loads.set place { load with isForgetting := false })[index]? = some other) :
      ∃ before, c.loads[index]? = some before ∧ before.fetches = other.fetches := by
    obtain ⟨rfl, rfl⟩ | kept := of_getElem?_set found
    · exact ⟨load, there, rfl⟩
    · exact ⟨other, kept, rfl⟩
  obtain ⟨forcedLoad, forcedThere, isForced⟩ := fresh.isForced
  refine ⟨fun number => ?_, ?_, ?_, ?_, ?_⟩
  · exact (congrFun (Source.refusal?_eq_of_setup_eq same) number).trans (fresh.takes number)
  · by_cases here : place = forced
    · subst here
      obtain rfl := Option.some.inj (there.symm.trans forcedThere)
      exact ⟨_, List.getElem?_set_self (List.getElem?_eq_some_iff.mp there).1, isForced⟩
    · exact ⟨forcedLoad, (List.getElem?_set_ne here).trans forcedThere, isForced⟩
  · intro dropped on kind stored body held read
    rw [Source.isConnected_eq_of_setup_eq same] at on
    cases force : load.force with
    | true =>
      rw [force, Source.stored?_forget_forced on fresh.takes] at held
      cases held
    | false =>
      -- An unforced load is not the forced one, and drops nothing.
      have other : place ≠ forced := by
        rintro rfl
        obtain rfl := Option.some.inj (there.symm.trans forcedThere)
        rw [force] at isForced
        cases isForced
      rw [force, Source.forget_unforced] at held
      refine fresh.held ?_ on kind stored body held read
      rw [isForgetting, List.getElem?_set_ne other] at dropped
      exact dropped
  · intro index other found kind body answered
    obtain ⟨before, beforeThere, fetches⟩ := at_ found
    exact fresh.pending index before beforeThere kind body (fetches ▸ answered)
  · intro index other after found kind body ended
    obtain ⟨before, beforeThere, fetches⟩ := at_ found
    exact fresh.ended index before after beforeThere kind body (fetches ▸ ended)

theorem setup_expire (c : Overlap) (kind : Kind) :
    (c.expire kind).source.setup = c.source.setup := by
  cases cache : c.source.cache <;> simp only [expire, Source.setup, cache] <;> rfl

theorem Fresh.expired (fresh : Fresh unsaved answers early forced c) (kind : Kind) :
    Fresh unsaved answers early forced (c.expire kind) := by
  have same := c.setup_expire kind
  have before {other : Kind} {stored : Stored}
      (held : (c.expire kind).source.stored? other = some stored) :
      c.source.stored? other = some stored := by
    cases cache : c.source.cache with
    | none =>
      simp only [expire, Source.stored?, cache] at held
      cases held
    | some cache' =>
      simp only [expire, Source.stored?, cache, Option.map_some, Option.bind_some] at held ⊢
      by_cases same : other = kind
      · rw [same, KeyValueServer.get?_remove_self] at held
        cases held
      · rwa [KeyValueServer.get?_remove_of_ne _ fun equal =>
          same (Kind.name_injective (Cache.key_injective equal))] at held
  refine ⟨fun number => ?_, fresh.isForced, ?_, fresh.pending, fresh.ended⟩
  · exact (congrFun (Source.refusal?_eq_of_setup_eq same) number).trans (fresh.takes number)
  · intro dropped on other stored body held read
    rw [Source.isConnected_eq_of_setup_eq same] at on
    exact fresh.held dropped on other stored body (before held) read

theorem isForgetting_taken (there : c.loads[place]? = some load) :
    (c.taken place load turn).isForgetting forced = c.isForgetting forced := by
  by_cases here : place = forced
  · subst here
    have kept : (c.taken place load turn).loads[place]? = some (load.takeUp _) :=
      List.getElem?_set_self (List.getElem?_eq_some_iff.mp there).1
    exact (isForgetting_of_getElem? kept).trans (isForgetting_of_getElem? there).symm
  · simp only [isForgetting, taken, List.getElem?_set_ne here]

theorem isForced_taken (there : c.loads[place]? = some load)
    (isForced : ∃ load, c.loads[forced]? = some load ∧ load.force = true) :
    ∃ load', (c.taken place load turn).loads[forced]? = some load' ∧ load'.force = true := by
  obtain ⟨forcedLoad, forcedThere, isForced⟩ := isForced
  by_cases here : place = forced
  · subst here
    obtain rfl := Option.some.inj (there.symm.trans forcedThere)
    exact ⟨_, List.getElem?_set_self (List.getElem?_eq_some_iff.mp there).1, isForced⟩
  · exact ⟨forcedLoad, (List.getElem?_set_ne here).trans forcedThere, isForced⟩

/-- What is held after a turn was held before, or it was in hand. -/
theorem Fresh.held_taken (fresh : Fresh unsaved answers early forced c) (ready : c.Ready)
    (there : c.loads[place]? = some load) (dropped : c.isForgetting forced = false)
    (on : c.source.isConnected = true) {kind : Kind} {stored : Stored} {body : Json}
    (held : (c.taken place load turn).source.stored? kind = some stored)
    (read : stored.body? = .ok (some body)) :
    ∃ given, body = given.packed ∧ ((kind, given) ∈ answers ∨ unsaved kind given) := by
  have readable := ready load (List.mem_of_getElem? there) turn.kind
  obtain before | ⟨rfl, given, answered, packed⟩ :=
    Source.stored_of_advance (fun body answered => (readable body answered).1) held
  · exact fresh.held dropped on kind stored body before read
  · obtain ⟨there', shaped⟩ := readable given answered
    rw [Stored.body?_eq_packed there' shaped packed] at read
    refine ⟨given, (Option.some.inj (Except.ok.inj read)).symm, ?_⟩
    exact (fresh.pending place load there turn.kind given answered).imp_right And.right

/-- Where a list comes from that a turn finds in the cache. -/
theorem Fresh.origin_of_lookup (fresh : Fresh unsaved answers early forced c) {body : Json}
    (fetching : c.fetching? place = some load) (begun : load.fetches turn.kind = .begun)
    (hit : (c.source.lookup load.force turn.kind).fetch = .ended (.ok body)) :
    Origin unsaved answers (early ++ (foundBefore? forced c (.turn place turn)).toList) place
      turn.kind body := by
  obtain ⟨⟨-, on⟩, stored, held, read⟩ := Source.exists_stored_of_lookup hit
  cases dropped : c.isForgetting forced with
  | true =>
    have observed : foundBefore? forced c (.turn place turn) = some (place, turn.kind, body) := by
      rw [foundBefore?, if_pos dropped, found?_of_begun fetching begun hit]
    rw [observed]
    exact .early (List.mem_append_right _ List.mem_cons_self)
  | false =>
    obtain ⟨given, rfl, answered | late⟩ := fresh.held dropped on turn.kind stored body held read
    · exact .cached answered
    · exact .late late

/-- Where a list comes from with which a turn ends its fetch. -/
theorem Fresh.origin_taken (fresh : Fresh unsaved answers early forced c) {body : Json}
    (there : c.loads[place]? = some load) (set : load.isForgetting = false)
    (after : forced ≤ place) (open_ : (load.fetches turn.kind).result? = none)
    (next : ((c.source.advance turn.now load.force turn.kind
      (load.fetches turn.kind)).fetch.settled turn.kind).1 = .ended (.ok body)) :
    Origin unsaved (answers ++ (c.answered? (.turn place turn)).toList)
      (early ++ (foundBefore? forced c (.turn place turn)).toList) place turn.kind body := by
  have fetching : c.fetching? place = some load := fetching?_eq_some_iff.mpr ⟨there, set⟩
  obtain ⟨begun, hit⟩ | ⟨asked, given⟩ | answered | ⟨coefficients, rfl⟩ :=
    Source.ended_of_advance open_ next
  · exact (fresh.origin_of_lookup fetching begun hit).mono (List.subset_append_left _ _)
      (List.Subset.refl _)
  · rw [answered?_of_asked fetching asked given]
    exact .answered (List.mem_append_right _ List.mem_cons_self)
  · obtain given | ⟨before, -⟩ := fresh.pending place load there turn.kind body answered
    · exact .answered (List.mem_append_left _ given)
    · exact absurd after (Nat.not_le.mpr before)
  · exact .missing coefficients

theorem Fresh.turned (fresh : Fresh unsaved answers early forced c) (ready : c.Ready)
    (there : c.loads[place]? = some load) (set : load.isForgetting = false)
    (open_ : (load.fetches turn.kind).result? = none) :
    Fresh unsaved (answers ++ (c.answered? (.turn place turn)).toList)
      (early ++ (foundBefore? forced c (.turn place turn)).toList) forced
      (c.taken place load turn) := by
  have fetching : c.fetching? place = some load := fetching?_eq_some_iff.mpr ⟨there, set⟩
  have same : (c.taken place load turn).source.setup = c.source.setup := Source.setup_advance _
  have old : Fresh unsaved (answers ++ (c.answered? (.turn place turn)).toList)
      (early ++ (foundBefore? forced c (.turn place turn)).toList) forced c := fresh.mono
  refine ⟨fun number => ?_, isForced_taken there fresh.isForced, ?_, ?_, ?_⟩
  · exact (congrFun (Source.refusal?_eq_of_setup_eq same) number).trans (fresh.takes number)
  · intro dropped on kind stored body held read
    rw [Source.isConnected_eq_of_setup_eq same] at on
    rw [isForgetting_taken there] at dropped
    exact old.held_taken ready there dropped on held read
  · intro index other found kind body answered
    obtain ⟨rfl, rfl⟩ | kept := of_getElem?_set found
    · obtain ⟨rfl, next⟩ | kept := fetches_taken answered
      · obtain ⟨asked, given, -⟩ := Source.answered_of_advance open_ next
        rw [answered?_of_asked fetching asked given]
        exact .inl (List.mem_append_right _ List.mem_cons_self)
      · exact old.pending index load there kind body kept
    · exact old.pending index other kept kind body answered
  · intro index other after found kind body ended
    obtain ⟨rfl, rfl⟩ | kept := of_getElem?_set found
    · obtain ⟨rfl, next⟩ | kept := fetches_taken ended
      · exact fresh.origin_taken there set after open_ next
      · exact old.ended index load after there kind body kept
    · exact old.ended index other after kept kind body ended

theorem Fresh.step (fresh : Fresh unsaved answers early forced c) (ready : c.Ready)
    (action : Action) :
    Fresh unsaved (answers ++ (c.answered? action).toList)
      (early ++ (foundBefore? forced c action).toList) forced (c.step action) := by
  have effect := c.effect_step action
  generalize c.step action = d at effect
  cases effect with
  | idle => exact fresh.mono
  | started force => exact (fresh.started force).mono
  | forgot there still => exact (fresh.forgot there).mono
  | turned there set open_ => exact fresh.turned ready there set open_
  | finished =>
    refine Fresh.mono ?_
    exact ⟨fresh.takes, fresh.isForced, fresh.held, fresh.pending, fresh.ended⟩
  | expired kind => exact (fresh.expired kind).mono

theorem Fresh.run (fresh : Fresh unsaved answers early forced c) (ready : c.Ready)
    (actions : List Action) :
    Fresh unsaved (answers ++ observed answered? c actions)
      (early ++ observed (foundBefore? forced) c actions) forced (c.run actions) := by
  induction actions generalizing c answers early with
  | nil =>
    rw [observed, observed, List.append_nil, List.append_nil]
    exact fresh
  | cons action rest inductionHypothesis =>
    rw [observed, observed, ← List.append_assoc, ← List.append_assoc]
    exact inductionHypothesis (fresh.step ready action) (ready_step ready action)

end Steps

theorem ready_begin (s : Source) : (begin s).Ready :=
  fun _ member => absurd member List.not_mem_nil

/-- The start of a forced refresh. -/
theorem fresh_started (takes : ∀ number, c.source.refusal? number = none) :
    Fresh c.Unsaved [] [] c.loads.length (c.step (.start true)) := by
  have last : (c.loads ++ [.start true])[c.loads.length]? = some (.start true) :=
    List.getElem?_concat_length
  refine ⟨takes, ⟨_, last, rfl⟩, fun dropped => ?_, ?_, ?_⟩
  · cases (congrArg (Option.any Loading.isForgetting) last).symm.trans dropped
  · intro place load there kind body answered
    have there := of_getElem?_append_start there answered (by simp)
    exact .inr ⟨(List.getElem?_eq_some_iff.mp there).1, load, List.mem_of_getElem? there, answered⟩
  · intro place load after there kind body ended
    have there := of_getElem?_append_start there ended (by simp)
    exact absurd after (Nat.not_le.mpr (List.getElem?_eq_some_iff.mp there).1)

theorem setup_step (c : Overlap) (action : Action) :
    (c.step action).source.setup = c.source.setup := by
  have effect := c.effect_step action
  generalize c.step action = d at effect
  cases effect with
  | idle | started | finished => rfl
  | forgot => exact Source.setup_forget _ _
  | turned => exact Source.setup_advance _
  | expired kind => exact c.setup_expire kind

theorem setup_run (c : Overlap) (actions : List Action) :
    (c.run actions).source.setup = c.source.setup := by
  induction actions generalizing c with
  | nil => rfl
  | cons action rest inductionHypothesis =>
    exact (inductionHypothesis (c.step action)).trans (c.setup_step action)

end Overlap

end Fitout
