import Fitout.Proofs.Fallible
import Fitout.Source.Gather

/-!
# Turns of overlapping fetches

A fetch has ended after four turns of its own, whatever the others do in between. Where each list
has its turns one after the other, the load is the one that fetches one list after the other.
-/

namespace Fitout

namespace Catalog

theorem Kind.mem_all (kind : Kind) : kind ∈ Kind.all := by
  cases kind <;> decide

theorem Kind.nodup_all : Kind.all.Nodup := by
  decide

theorem Kind.name_injective {kind other : Kind} (same : kind.name = other.name) : kind = other := by
  revert same
  cases kind <;> cases other <;> decide

end Catalog

namespace Fetch

variable {kind : Catalog.Kind}

theorem settled_of_result?_eq_none {f : Fetch} (open_ : f.result? = none) :
    f.settled kind = (f, []) := by
  cases f with
  | ended result => cases open_
  | _ => rfl

theorem result?_eq_some_iff {f : Fetch} {result : Except LoadError Json} :
    f.result? = some result ↔ f = .ended result := by
  cases f <;> simp [result?]

theorem body?_eq_some_iff {f : Fetch} {body : Json} :
    f.body? = some body ↔ f = .ended (.ok body) := by
  cases f with
  | ended result => cases result <;> simp [body?]
  | _ => simp [body?]

theorem error?_eq_some_iff {f : Fetch} {e : LoadError} :
    f.error? = some e ↔ f = .ended (.error e) := by
  cases f with
  | ended result => cases result <;> simp [error?]
  | _ => simp [error?]

theorem error?_of_result?_eq_none {f : Fetch} (open_ : f.result? = none) : f.error? = none := by
  cases f with
  | ended result => cases open_
  | _ => rfl

theorem settled_ok (body : Json) :
    (ended (.ok body)).settled kind = (ended (.ok body), []) := by
  cases kind <;> rfl

theorem settled_unpacking (e : MessagePack.DecodeError) :
    (ended (.error (.unpacking e))).settled kind = (ended (.error (.unpacking e)), []) := by
  cases kind <;> rfl

theorem settled_packing (e : MessagePack.EncodeError) :
    (ended (.error (.packing e))).settled kind = (ended (.error (.packing e)), []) := by
  cases kind <;> rfl

theorem stepsLeft_pos_of_result?_eq_none {f : Fetch} (open_ : f.result? = none) :
    0 < f.stepsLeft := by
  refine Nat.pos_of_ne_zero fun done => ?_
  have ended := isSome_result? done
  rw [open_] at ended
  cases ended

end Fetch

namespace Source

theorem advanceBy_ended (s : Source) (now : Float) (force : Bool) (kind : Catalog.Kind)
    (result : Except LoadError Json) (n : Nat) :
    s.advanceBy now force kind n (.ended result) = ⟨.ended result, s, []⟩ := by
  induction n with
  | zero => rfl
  | succ n inductionHypothesis =>
    simp only [advanceBy, advance, inductionHypothesis, List.append_nil]

/-- The error that a step gives, if it gives one. -/
def Step.error? {α : Type} (s : Step α) : Option LoadError :=
  match s.result with
  | .error e => some e
  | .ok _ => none

theorem error?_ended (s : Step Json) : (Fetch.ended s.result).error? = s.error? := by
  unfold Step.error?
  split <;> simp only [*, Fetch.error?]

theorem inOrder_cons (now : Float) (kind : Catalog.Kind) (rest : List Catalog.Kind) :
    inOrder now (kind :: rest) = List.replicate 4 ⟨kind, now⟩ ++ inOrder now rest :=
  List.flatMap_cons

/-- Of several errors the first counts. -/
theorem error?_lists_cons (s : Source) (now : Float) (force : Bool) (kind : Catalog.Kind)
    (rest : List Catalog.Kind) :
    (s.lists now force (kind :: rest)).error? =
      (s.list now force kind).error?.or
        ((s.list now force kind).source.lists now force rest).error? := by
  rw [lists]
  generalize s.list now force kind = list
  obtain ⟨first, source, events⟩ := list
  cases first with
  | error e => rfl
  | ok body =>
    generalize source.lists now force rest = others
    obtain ⟨later, source, events⟩ := others
    cases later <;> rfl

end Source

namespace Gathering

variable {force : Bool} {now : Float} {kind : Catalog.Kind} {g : Gathering}

theorem run_append (turns more : List Turn) :
    g.run force (turns ++ more) = (g.run force turns).run force more :=
  List.foldl_append

theorem step_ended {turn : Turn} (ended : (g.fetches turn.kind).result?.isSome) :
    g.step force turn = g := by
  obtain ⟨result, result_eq⟩ := Option.isSome_iff_exists.mp ended
  simp only [step, result_eq]

theorem step_open {turn : Turn} (open_ : (g.fetches turn.kind).result? = none) :
    g.step force turn =
      g.put turn.kind (g.source.advance turn.now force turn.kind (g.fetches turn.kind)) := by
  simp only [step, open_]

@[simp] theorem fetches_put_self (next : Fetch.Step) :
    (g.put kind next).fetches kind = (next.fetch.settled kind).1 :=
  if_pos rfl

theorem fetches_put_of_ne {other : Catalog.Kind} (ne : other ≠ kind) (next : Fetch.Step) :
    (g.put kind next).fetches other = g.fetches other :=
  if_neg ne

theorem outcome?_eq_ok_iff {bodies : Catalog.Lists Json} :
    g.outcome? = some (.ok bodies) ↔
      g.failure = none ∧ ∀ kind, g.fetches kind = .ended (.ok (bodies kind)) := by
  unfold outcome?
  cases g.failure with
  | some e => simp
  | none =>
    simp only [true_and]
    constructor
    · intro known
      split at known
      · rename_i all
        obtain rfl := Except.ok.inj (Option.some.inj known)
        intro kind
        obtain ⟨body, body_eq⟩ := Option.isSome_iff_exists.mp (all kind kind.mem_all)
        simp only [body_eq, Option.getD_some]
        exact Fetch.body?_eq_some_iff.mp body_eq
      · cases known
    · intro ended
      have bodies_eq : (fun kind => (g.fetches kind).body?.getD .null) = bodies := by
        funext kind
        rw [ended kind]
        rfl
      rw [if_pos fun kind _ => by rw [ended kind]; rfl, bodies_eq]

theorem outcome?_eq_error_iff {e : LoadError} :
    g.outcome? = some (.error e) ↔ g.failure = some e := by
  unfold outcome?
  cases g.failure with
  | some other => simp
  | none =>
    simp only [reduceCtorEq, iff_false]
    split <;> simp

section Complete

/-- Whether each list has turns enough to be fetched from beginning to end. -/
def IsComplete (turns : List Turn) : Prop :=
  ∀ kind, 4 ≤ turns.countP (·.kind = kind)

theorem stepsLeft_settled (f : Fetch) : (f.settled kind).1.stepsLeft = f.stepsLeft := by
  cases f <;> rfl

theorem stepsLeft_step_self (turn : Turn) :
    ((g.step force turn).fetches turn.kind).stepsLeft ≤
      (g.fetches turn.kind).stepsLeft - 1 := by
  cases open_ : (g.fetches turn.kind).result? with
  | some result =>
    rw [step_ended (Option.isSome_of_eq_some open_), Fetch.result?_eq_some_iff.mp open_]
    exact Nat.le_refl 0
  | none =>
    rw [step_open open_, fetches_put_self, stepsLeft_settled]
    exact g.source.stepsLeft_advance turn.now force turn.kind _

theorem fetches_step_of_ne {turn : Turn} (ne : kind ≠ turn.kind) :
    (g.step force turn).fetches kind = g.fetches kind := by
  unfold step
  split
  · rfl
  · exact fetches_put_of_ne ne _

theorem stepsLeft_run (turns : List Turn) :
    ((g.run force turns).fetches kind).stepsLeft ≤
      (g.fetches kind).stepsLeft - turns.countP (·.kind = kind) := by
  induction turns generalizing g with
  | nil => exact Nat.le_refl _
  | cons turn rest inductionHypothesis =>
    have later : ((g.run force (turn :: rest)).fetches kind).stepsLeft ≤
        ((g.step force turn).fetches kind).stepsLeft - rest.countP (·.kind = kind) :=
      inductionHypothesis
    rw [List.countP_cons]
    by_cases same : kind = turn.kind
    · subst same
      have first : ((g.step force turn).fetches turn.kind).stepsLeft ≤
          (g.fetches turn.kind).stepsLeft - 1 := stepsLeft_step_self turn
      simp only [decide_true, if_true]
      omega
    · rw [fetches_step_of_ne same] at later
      simpa only [Ne.symm same, decide_false, Bool.false_eq_true, if_false, Nat.add_zero]
        using later

/-- The failure is an error with which a fetch ended, if there is one. -/
structure Noted (g : Gathering) : Prop where
  noted : ∀ kind e, g.fetches kind = .ended (.error e) → g.failure.isSome
  ended : ∀ e, g.failure = some e → ∃ kind, g.fetches kind = .ended (.error e)

theorem noted_start (s : Source) : (Gathering.start s).Noted where
  noted _ _ ended := by cases ended
  ended _ failed := by cases failed

theorem noted_step (noted : g.Noted) (turn : Turn) : (g.step force turn).Noted := by
  cases open_ : (g.fetches turn.kind).result? with
  | some result =>
    rw [step_ended (Option.isSome_of_eq_some open_)]
    exact noted
  | none =>
    rw [step_open open_]
    generalize g.source.advance turn.now force turn.kind (g.fetches turn.kind) = next
    constructor
    · intro kind e ended
      rw [put, Option.isSome_or, Bool.or_eq_true]
      by_cases same : kind = turn.kind
      · subst same
        rw [fetches_put_self] at ended
        exact .inr (Option.isSome_of_eq_some (Fetch.error?_eq_some_iff.mpr ended))
      · rw [fetches_put_of_ne same] at ended
        exact .inl (noted.noted kind e ended)
    · intro e failed
      obtain failed | ⟨-, failed⟩ := Option.or_eq_some_iff.mp failed
      · obtain ⟨kind, ended⟩ := noted.ended e failed
        have other : kind ≠ turn.kind := by
          rintro rfl
          rw [ended] at open_
          cases open_
        exact ⟨kind, (fetches_put_of_ne other next).trans ended⟩
      · exact ⟨turn.kind, (fetches_put_self next).trans (Fetch.error?_eq_some_iff.mp failed)⟩

theorem noted_run (noted : g.Noted) (turns : List Turn) : (g.run force turns).Noted := by
  induction turns generalizing g with
  | nil => exact noted
  | cons turn rest inductionHypothesis => exact inductionHypothesis (noted_step noted turn)

theorem isSome_result?_run (s : Source) {turns : List Turn} (complete : IsComplete turns)
    (kind : Catalog.Kind) :
    (((Gathering.start s).run force turns).fetches kind).result?.isSome := by
  have left : (((Gathering.start s).run force turns).fetches kind).stepsLeft ≤
      4 - turns.countP (·.kind = kind) := stepsLeft_run turns
  have enough := complete kind
  exact Fetch.isSome_result? (by omega)

/-- Turns enough, and it is known what the load gives. -/
theorem isSome_outcome?_run (s : Source) {turns : List Turn} (complete : IsComplete turns) :
    ((Gathering.start s).run force turns).outcome?.isSome := by
  have noted : ((Gathering.start s).run force turns).Noted := noted_run (noted_start s) turns
  have ended : ∀ kind, (((Gathering.start s).run force turns).fetches kind).result?.isSome :=
    isSome_result?_run s complete
  generalize (Gathering.start s).run force turns = g at noted ended
  unfold outcome?
  cases failure : g.failure with
  | some e => rfl
  | none =>
    have bodies (kind : Catalog.Kind) : (g.fetches kind).body?.isSome := by
      obtain ⟨result, result_eq⟩ := Option.isSome_iff_exists.mp (ended kind)
      rw [Fetch.result?_eq_some_iff] at result_eq
      cases result with
      | ok body => rw [result_eq]; rfl
      | error e =>
        have failed := noted.noted kind e result_eq
        rw [failure] at failed
        cases failed
    simp only [bodies, implies_true, if_true, Option.isSome_some]

end Complete

section InOrder

theorem run_ended (ended : (g.fetches kind).result?.isSome) (n : Nat) :
    g.run force (List.replicate n ⟨kind, now⟩) = g := by
  induction n with
  | zero => rfl
  | succ n inductionHypothesis =>
    rw [List.replicate_succ, run, List.foldl_cons, step_ended ended]
    exact inductionHypothesis

/-- A step that does not end a fetch, and what follows it, taken up at once. -/
theorem put_put {first next : Fetch.Step} (open_ : first.fetch.result? = none) :
    (g.put kind first).put kind next =
      g.put kind { next with events := first.events ++ next.events } := by
  simp only [put, Fetch.settled_of_result?_eq_none open_, Fetch.error?_of_result?_eq_none open_,
    Option.or_none, List.append_nil, List.append_assoc, mk.injEq, true_and, and_true]
  funext k
  split <;> rfl

/-- So many turns as a fetch may still need. -/
theorem run_replicate {n : Nat} (open_ : (g.fetches kind).result? = none)
    (enough : (g.fetches kind).stepsLeft ≤ n) :
    g.run force (List.replicate n ⟨kind, now⟩) =
      g.put kind (g.source.advanceBy now force kind n (g.fetches kind)) := by
  induction n generalizing g with
  | zero => exact absurd enough (Nat.not_le.mpr (Fetch.stepsLeft_pos_of_result?_eq_none open_))
  | succ n inductionHypothesis =>
    have left := g.source.stepsLeft_advance now force kind (g.fetches kind)
    rw [List.replicate_succ, run, List.foldl_cons, step_open open_, Source.advanceBy]
    generalize g.source.advance now force kind (g.fetches kind) = first at left
    cases result : first.fetch.result? with
    | some r =>
      -- The fetch ended before its turns were used up.
      have ended := Fetch.result?_eq_some_iff.mp result
      have done : ((g.put kind first).fetches kind).result?.isSome := by
        rw [fetches_put_self, ended]
        rfl
      rw [← run, run_ended done, ended, Source.advanceBy_ended, ← ended, List.append_nil]
    | none =>
      have fetch : (g.put kind first).fetches kind = first.fetch := by
        rw [fetches_put_self, Fetch.settled_of_result?_eq_none result]
      have rest := inductionHypothesis (fetch ▸ result) (by rw [fetch]; omega)
      rw [← run, rest, put_put result, fetch]
      rfl

/-- Take up a list that was fetched from beginning to end. -/
def putList (g : Gathering) (kind : Catalog.Kind) (list : Source.Step Json) : Gathering where
  source := list.source
  fetches := fun k => if k = kind then .ended list.result else g.fetches k
  failure := g.failure.or list.error?
  events := g.events ++ list.events

theorem fetches_putList_of_ne {other : Catalog.Kind} (ne : other ≠ kind) (list : Source.Step Json) :
    (g.putList kind list).fetches other = g.fetches other :=
  if_neg ne

theorem put_fetch (s : Source) :
    g.put kind (s.fetch now force kind) = g.putList kind (s.list now force kind) := by
  have whole := Option.some_get (s.isSome_result?_fetch now force kind)
  have ended := Fetch.result?_eq_some_iff.mp whole.symm
  have settled : (s.fetch now force kind).fetch.settled kind =
      (.ended (s.list now force kind).result,
        (Source.settle kind ((s.fetch now force kind).fetch.result?.get
          (s.isSome_result?_fetch now force kind))).2) := by
    exact congrArg (Fetch.settled kind) ended
  simp only [put, settled, Source.error?_ended]
  rfl

/-- What a run has to do with lists that were fetched one after the other. -/
structure Gathers (g after : Gathering) (kinds : List Catalog.Kind)
    (lists : Source.Step (Catalog.Lists Json)) : Prop where
  source : after.source = lists.source
  events : after.events = g.events ++ lists.events
  failure : after.failure = g.failure.or lists.error?
  others : ∀ kind ∉ kinds, after.fetches kind = g.fetches kind
  bodies : ∀ bodies, lists.result = .ok bodies →
    ∀ kind ∈ kinds, after.fetches kind = .ended (.ok (bodies kind))

theorem gathers_inOrder {kinds : List Catalog.Kind} (distinct : kinds.Nodup)
    (begun : ∀ kind ∈ kinds, g.fetches kind = .begun) :
    g.Gathers (g.run force (Source.inOrder now kinds)) kinds (g.source.lists now force kinds) := by
  induction kinds generalizing g with
  | nil =>
    exact ⟨rfl, (List.append_nil _).symm, (Option.or_none ..).symm, fun _ _ => rfl,
      fun _ _ _ none => absurd none List.not_mem_nil⟩
  | cons kind rest inductionHypothesis =>
    obtain ⟨fresh, others⟩ := List.nodup_cons.mp distinct
    have open_ : g.fetches kind = .begun := begun kind List.mem_cons_self
    have first : g.run force (List.replicate 4 ⟨kind, now⟩) =
        g.putList kind (g.source.list now force kind) := by
      have ran : g.run force (List.replicate 4 ⟨kind, now⟩) =
          g.put kind (g.source.advanceBy now force kind 4 (g.fetches kind)) :=
        run_replicate (open_ ▸ rfl) (open_ ▸ Nat.le_refl 4)
      rw [ran, open_]
      exact put_fetch g.source
    have ne {k : Catalog.Kind} (member : k ∈ rest) : k ≠ kind := fun same => fresh (same ▸ member)
    have later := inductionHypothesis (g := g.putList kind (g.source.list now force kind)) others
      fun k member => (fetches_putList_of_ne (ne member) _).trans
        (begun k (List.mem_cons_of_mem _ member))
    rw [Source.inOrder_cons, run_append, first]
    constructor
    · exact later.source
    · exact later.events.trans (List.append_assoc ..)
    · rw [later.failure, Source.error?_lists_cons]
      exact Option.or_assoc
    · intro k other
      obtain ⟨ne, outside⟩ := not_or.mp (mt List.mem_cons.mpr other)
      exact (later.others k outside).trans (fetches_putList_of_ne ne _)
    · intro bodies all k member
      obtain ⟨body, fetched, all⟩ := of_bind_eq_ok all
      obtain ⟨known, fetchedRest, all⟩ := of_bind_eq_ok all
      obtain rfl := Except.ok.inj all
      obtain rfl | member := List.mem_cons.mp member
      · rw [later.others k fresh]
        simp only [putList, fetched, if_true]
      · simp only [later.bodies known fetchedRest k member, ne member, if_false]

end InOrder

end Gathering

/-- A load in which one list is fetched after the other is one with overlapping fetches. -/
theorem Source.loadBy_inOrder (s : Source) (now : Float) (force : Bool) :
    s.loadBy force (inOrder now Catalog.Kind.all) = some (s.load now force) := by
  simp only [loadBy, load]
  generalize s.forget force = forgotten
  obtain ⟨s, forgotten⟩ := forgotten
  have gathers : (Gathering.start s).Gathers
      ((Gathering.start s).run force (inOrder now Catalog.Kind.all)) Catalog.Kind.all
      (s.lists now force Catalog.Kind.all) :=
    Gathering.gathers_inOrder Catalog.Kind.nodup_all fun _ _ => rfl
  generalize (Gathering.start s).run force (inOrder now Catalog.Kind.all) = g at gathers
  generalize s.lists now force Catalog.Kind.all = lists at gathers
  obtain ⟨source, events, failure, -, ended⟩ := gathers
  obtain ⟨result, source, events⟩ := lists
  cases result with
  | error e =>
    have known := Gathering.outcome?_eq_error_iff.mpr failure
    simp only [known, source, events, Option.map_some, Gathering.start, List.nil_append]
  | ok bodies =>
    have known := Gathering.outcome?_eq_ok_iff.mpr
      ⟨failure, fun kind => ended bodies rfl kind kind.mem_all⟩
    simp only [known, source, events, Option.map_some, Gathering.start, List.nil_append]

end Fitout
