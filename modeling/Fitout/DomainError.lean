import Fitout.Breaker.Basic
import Fitout.Catalog.Basic
import Fitout.Selection

/-!
Why an operation of the configurator is refused.
-/

namespace Fitout

inductive Unavailable where
  | notLoaded
  | circuit (name : String) (rejection : Breaker.Rejection)
  deriving DecidableEq, Repr

def Unavailable.reason : Unavailable → String
  | notLoaded => "catalog has not been loaded yet"
  | circuit name rejection => rejection.message name

inductive DomainError where
  | sessionNotFound (id : String)
  | categoryNotFound (id : Int)
  | productNotFound (id : Int)
  | serviceNotFound (id : Int)
  | presetNotFound (id : Int)
  | invalidSelection (error : SelectionError)
  | negativePrice (entity : NegativePrice)
  | catalogUnavailable (cause : Unavailable)
  deriving DecidableEq, Repr

def NegativePrice.message : NegativePrice → String
  | product => "Product price cannot be negative"
  | service => "Service price cannot be negative"

def DomainError.message : DomainError → String
  | sessionNotFound id => s!"Session with ID {id} not found"
  | categoryNotFound id => s!"Category with ID {id} not found"
  | productNotFound id => s!"Product with ID {id} not found"
  | serviceNotFound id => s!"Service with ID {id} not found"
  | presetNotFound id => s!"Preset with ID {id} not found"
  | invalidSelection error => error.message
  | negativePrice entity => entity.message
  | catalogUnavailable cause => "Catalog unavailable: " ++ cause.reason

/-- Why an operation gives nothing: an error of the domain, or a number beyond the doubles. -/
inductive Refusal where
  | domain (error : DomainError)
  | overflow
  deriving DecidableEq, Repr

namespace Refusal

def ofDomain {α : Type} : Except DomainError α → Except Refusal α
  | .ok a => .ok a
  | .error e => .error (.domain e)

def ofOverflow {α : Type} : Except Overflow α → Except Refusal α
  | .ok a => .ok a
  | .error .beyondDouble => .error .overflow

end Refusal

end Fitout
