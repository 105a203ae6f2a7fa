import Fitout.Http.Action
import Fitout.Session.Configurator
import Fitout.Source.Load

/-!
What a running service works on, and the actions it can take there.
-/

namespace Fitout

/-- Where the catalogs come from, and the configurator over them. -/
structure Site where
  source : Source
  configurator : Configurator Float

namespace Site

/-- Why an action fails. -/
inductive Failure where
  | refused (refusal : Refusal)
  | unloaded (error : LoadError)

/-- What an action gives. -/
inductive Result where
  | tree (tree : Category.Tree)
  | summary (summary : Catalog.Summary)
  | services (services : List Service)
  | presets (presets : List Preset)
  | coefficients (coefficients : List Coefficient)
  | created (session : Session Float)
  | deleted
  | visited (visit : Configurator.Visit Float)

/-- What an operation gives, with the new state and what there is to report. -/
structure Step (α : Type) where
  result : Except Failure α
  site : Site
  events : Journal

def ofDomain {α : Type} (r : Except DomainError α) : Except Failure α :=
  r.mapError fun e => .refused (.domain e)

def setStore (site : Site) (store : Catalog.Store) : Site :=
  { site with configurator := { site.configurator with store } }

/-- Load the catalog anew and install it; what is installed then is the result. -/
def refresh (site : Site) (now : Float) (force : Bool) : Step Catalog.Snapshot :=
  let (ticket, store) := site.configurator.store.takeTicket
  let loaded := site.source.load now force
  let (store, events) := store.answer LoadError.message ticket loaded.result
  let result := match loaded.result with
    | .error e => .error (.unloaded e)
    | .ok _ => ofDomain store.current
  ⟨result, { site with source := loaded.source }.setStore store, loaded.events ++ events⟩

/-- Read something off the installed catalog. -/
def view (site : Site) (f : Catalog.Snapshot → Result) : Step Result :=
  ⟨(ofDomain site.configurator.store.current).map f, site, []⟩

/-- Take the outcome of an operation on sessions. -/
def withSessions {α : Type} (site : Site) (f : α → Result) (s : Configurator.Step Float α) :
    Step Result :=
  ⟨(s.result.mapError .refused).map f, { site with configurator := s.configurator }, s.events⟩

/-- Carry out an action. -/
def perform (site : Site) (now : Float) : Http.Action → Step Result
  | .tree => site.view fun s => .tree s.tree
  | .refresh force =>
    let done := site.refresh now force
    ⟨done.result.map fun s => .summary s.summary, done.site,
      .refreshRequested force :: done.events⟩
  | .services => site.view fun s => .services s.services
  | .presets => site.view fun s => .presets s.presets
  | .coefficients => site.view fun s => .coefficients s.coefficients
  | .createSession => site.withSessions .created (site.configurator.createSession now)
  | .deleteSession id =>
    site.withSessions (fun _ => .deleted) (site.configurator.deleteSession id)
  | .command id command =>
    site.withSessions .visited (site.configurator.visit now id command)

end Site

end Fitout
