import Fitout.Catalog.Basic
import Fitout.Text.Fold

/-!
Which coefficient scales the prices of services: the one that the catalog lists under the name
configured for a market, or one.
-/

namespace Fitout.Pricing

def defaultCoefficient : Float := 1

/-- The coefficient's name for each market, as configured. -/
structure MarketNames where
  primary : Option String
  secondary : Option String

def MarketNames.name? (names : MarketNames) : MarketType → Option String
  | .primary => names.primary
  | .secondary => names.secondary

inductive Resolution where
  /-- No market was given, or no name is configured for it. -/
  | unasked
  | listed (value : Float)
  /-- No coefficient has the configured name. -/
  | unlisted (market : MarketType) (name : String)

def Resolution.coefficient : Resolution → Float
  | listed value => value
  | unasked | unlisted _ _ => defaultCoefficient

/-- Find the coefficient of a market. Names are compared without regard to case and spacing. -/
def resolve (market : Option MarketType) (coefficients : List Coefficient) (names : MarketNames) :
    Resolution :=
  match market with
  | none => .unasked
  | some market =>
    match (names.name? market).filter (!·.isEmpty) with
    | none => .unasked
    | some name =>
      let wanted := Text.looseName name
      match coefficients.find? (Text.looseName ·.name == wanted) with
      | some c => .listed c.value
      | none => .unlisted market name

/-- Whether a coefficient may be applied: it is finite and not below zero. -/
def isApplicable (coefficient : Float) : Bool :=
  coefficient.isFinite && !(coefficient < 0)

/-- The coefficient to apply: the one given if it may be applied, else one. -/
def applied : Option Number → Except Overflow Float
  | none => .ok defaultCoefficient
  | some given => do
    let c ← given.toFloat
    return if isApplicable c then c else defaultCoefficient

/-- A coefficient that is given but may not be applied. -/
def refused? : Option Number → Option Number
  | none => none
  | some given =>
    match given.toFloat with
    | .ok c => if isApplicable c then none else some given
    | .error _ => none

end Fitout.Pricing
