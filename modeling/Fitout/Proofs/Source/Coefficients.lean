import Fitout.Proofs.Source.Fallback

/-!
# Loads without coefficients

A load without coefficients gives the other four lists where the server was asked for them and
refused, or could not be reached. Any other reason for which they are not there, above all that the
circuit breaker did not let the query through, is the error of the whole load.
-/

namespace Fitout

namespace Gathering

/-- The result with which the fetch of a list ends, if it does so in these turns: an error is still
an error, also if it is one of missing coefficients. -/
def comesTo? (force : Bool) (kind : Catalog.Kind) (g : Gathering) :
    List Turn → Option (Except LoadError Json)
  | [] => none
  | turn :: rest =>
    if turn.kind = kind then
      match (g.source.advance turn.now force kind (g.fetches kind)).fetch.result? with
      | some result => some result
      | none => (g.step force turn).comesTo? force kind rest
    else (g.step force turn).comesTo? force kind rest

variable {force : Bool} {kind : Catalog.Kind} {g : Gathering}

theorem fetches_run_ended (ended : (g.fetches kind).result?.isSome) (turns : List Turn) :
    (g.run force turns).fetches kind = g.fetches kind := by
  induction turns generalizing g with
  | nil => rfl
  | cons turn rest inductionHypothesis =>
    have same : (g.step force turn).fetches kind = g.fetches kind := by
      by_cases own : kind = turn.kind
      · subst own
        rw [step_ended ended]
      · exact fetches_step_of_ne own
    rw [← same]
    exact inductionHypothesis (same ▸ ended)

/-- What has become of a list's fetch: it is settled, or still under way. -/
theorem fetches_run (force : Bool) (open_ : (g.fetches kind).result? = none) (turns : List Turn) :
    match g.comesTo? force kind turns with
    | some result => (g.run force turns).fetches kind = ((Fetch.ended result).settled kind).1
    | none => ((g.run force turns).fetches kind).result? = none := by
  induction turns generalizing g with
  | nil => exact open_
  | cons turn rest inductionHypothesis =>
    by_cases own : turn.kind = kind
    · subst own
      rw [comesTo?, if_pos rfl]
      cases ended : (g.source.advance turn.now force turn.kind
          (g.fetches turn.kind)).fetch.result? with
      | some result =>
        have fetch : (g.step force turn).fetches turn.kind =
            ((Fetch.ended result).settled turn.kind).1 := by
          rw [step_open open_, fetches_put_self, Fetch.result?_eq_some_iff.mp ended]
        exact (fetches_run_ended (fetch ▸ rfl) rest).trans fetch
      | none =>
        refine inductionHypothesis ?_
        rw [step_open open_, fetches_put_self, Fetch.settled_of_result?_eq_none ended]
        exact ended
    · have same : (g.step force turn).fetches kind = g.fetches kind :=
        fetches_step_of_ne (Ne.symm own)
      rw [comesTo?, if_neg own]
      exact inductionHypothesis (same ▸ open_)

theorem exists_comesTo? (s : Source) (force : Bool) {turns : List Turn}
    (complete : IsComplete turns) (kind : Catalog.Kind) :
    ∃ result, (start s).comesTo? force kind turns = some result ∧
      ((start s).run force turns).fetches kind = ((Fetch.ended result).settled kind).1 := by
  have begun : ((start s).fetches kind).result? = none := rfl
  have spec := fetches_run force begun turns
  have ended : (((start s).run force turns).fetches kind).result?.isSome :=
    isSome_result?_run s complete kind
  cases comesTo : (start s).comesTo? force kind turns with
  | some result =>
    rw [comesTo] at spec
    exact ⟨result, rfl, spec⟩
  | none =>
    rw [comesTo] at spec
    rw [spec] at ended
    cases ended

end Gathering

namespace Source

/-- What stands for the coefficients, by what their fetch came to. -/
def coefficientsOf : Except LoadError Json → Except LoadError (List Coefficient)
  | .ok body => .ok (Catalog.readCoefficients body).entities
  | .error e => if e.isMissing then .ok [] else .error e

theorem coefficientsOf_eq (result : Except LoadError Json) : coefficientsOf result =
    (settle .coefficients result).1.map fun body => (Catalog.readCoefficients body).entities := by
  cases result with
  | ok body => rfl
  | error e =>
    simp only [coefficientsOf, settle]
    split <;> rfl

/-- A load that got the other four lists returns them, with no coefficients if the server gave none.
Coefficients that were not asked for fail it. -/
theorem load_without_coefficients (s : Source) (force : Bool) {turns : List Turn}
    (complete : Gathering.IsComplete turns) :
    ∃ (step : Step Catalog.Data) (results : Catalog.Lists (Except LoadError Json)),
      s.loadBy force turns = some step ∧
      (∀ kind, (Gathering.start (s.forget force).1).comesTo? force kind turns =
        some (results kind)) ∧
      ∀ lists : Catalog.Lists Json, (∀ kind ≠ .coefficients, results kind = .ok (lists kind)) →
        step.result = (coefficientsOf (results .coefficients)).map
          ({ lists.data with coefficients := · }) := by
  obtain ⟨step, loaded⟩ := Option.isSome_iff_exists.mp (isSome_loadBy s force complete)
  obtain ⟨g, g_eq, -, -, outcome⟩ := of_loadBy_eq_some loaded
  choose results comesTo settled using Gathering.exists_comesTo? (s.forget force).1 force complete
  rw [← g_eq] at settled
  refine ⟨step, results, loaded, comesTo, ?_⟩
  intro lists others
  have fetched (kind : Catalog.Kind) (other : kind ≠ .coefficients) :
      g.fetches kind = .ended (.ok (lists kind)) := by
    rw [settled kind, others kind other, Fetch.settled_ok]
  have last : g.fetches .coefficients = .ended (settle .coefficients (results .coefficients)).1 :=
    settled .coefficients
  rw [coefficientsOf_eq]
  obtain ⟨all, result, ended⟩ | ⟨kind, e, result, failed⟩ := outcome
  · have same (kind : Catalog.Kind) (other : kind ≠ .coefficients) : all kind = lists kind :=
      Except.ok.inj (Fetch.ended.inj ((ended kind).symm.trans (fetched kind other)))
    rw [result, Fetch.ended.inj (last.symm.trans (ended .coefficients))]
    simp only [Except.map, Catalog.Lists.data, same, ne_eq, reduceCtorEq, not_false_eq_true]
  · by_cases own : kind = .coefficients
    · subst own
      rw [result, Fetch.ended.inj (last.symm.trans failed)]
      rfl
    · cases (fetched kind own).symm.trans failed

section Closed

/-- A server that cannot be reached, behind a cache that holds four lists and a circuit breaker that
opens with the first failure. -/
def unreachable : Source where
  client := { Remote.Client.ofRule fun _ _ => .failed ⟨"ConnectError", "no route to host"⟩ with
    policy := ⟨"catalog", 1, 30, 1⟩ }
  cache := (ofContent [] (["categories", "products", "services", "presets"].map
    fun name => (Cache.key name, ⟨none, [0x90]⟩)) fun _ => none).cache
  nesting := some MessagePack.usualNesting

theorem comesTo?_unreachable (kind : Catalog.Kind) :
    (Gathering.start unreachable).comesTo? false kind (inOrder 0 Catalog.Kind.all) =
      some (if kind = .coefficients
        then .error (.request (.faulty ⟨"ConnectError", "no route to host"⟩))
        else .ok (.list [])) := by
  cases kind <;> with_unfolding_all rfl

theorem unreachable_server_spares_catalog : (unreachable.load 0 false).result =
    .ok { Catalog.Lists.data (fun _ => .list []) with coefficients := [] } := by
  obtain ⟨step, results, loaded, comesTo, returns⟩ := load_without_coefficients unreachable false
    (isComplete_inOrder 0)
  rw [loadBy_inOrder] at loaded
  obtain rfl := Option.some.inj loaded
  have known (kind : Catalog.Kind) :=
    Option.some.inj ((comesTo kind).symm.trans (comesTo?_unreachable kind))
  rw [returns (fun _ => .list []) fun kind other => (known kind).trans (if_neg other),
    known .coefficients]
  rfl

/-- The first load opens the circuit. The second finds the four lists in the cache and fails all the
same, because the coefficients are not asked for. -/
theorem open_circuit_costs_catalog :
    let after := (unreachable.load 0 false).source
    (unreachable.load 0 false).result.isOk = true ∧
      (∀ kind ∈ Catalog.Kind.all, kind ≠ .coefficients →
        (after.fetch 0 false kind).fetch.body?.isSome = true) ∧
      (match (after.load 0 false).result with
        | .error (.request (.rejected _ .isOpen)) => true
        | _ => false) = true := by
  decide +kernel

end Closed

end Source

end Fitout
