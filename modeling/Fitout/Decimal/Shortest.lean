import Fitout.Decimal.Binary

/-!
The shortest decimal that reads back as a given double, and roundings to a fixed number of places.
-/

namespace Fitout.Decimal

/-- The number `± digits * 10 ^ exponent`. -/
structure Scientific where
  negative : Bool
  digits : Nat
  exponent : Int
  deriving DecidableEq

/-- The quotient rounded to the nearest whole number, a tie going to the even one. -/
def roundQuotient (num den : Nat) : Nat :=
  let floor := num / den
  match compare (2 * (num % den)) den with
  | .lt => floor
  | .gt => floor + 1
  | .eq => if floor % 2 == 0 then floor else floor + 1

/-- A quotient times a power of ten, as a quotient. -/
def scaleTen (num den : Nat) : Int → Nat × Nat
  | .ofNat e => (num * Nat.pow 10 e, den)
  | .negSucc e => (num, den * Nat.pow 10 (e + 1))

/-- The largest power of ten that is at most the quotient, which is positive. -/
def leadingExponent (num den : Nat) : Int :=
  if den ≤ num then (Nat.toDigits 10 (num / den)).length - 1
  else
    Int.negOfNat (Nat.toDigits 10 ((den - 1) / num)).length

/-- The numbers that round to a positive double: a quarter of its last place is the unit, and
`below` and `above` say how far the range reaches. -/
structure Range where
  center : Nat
  below : Nat
  above : Nat
  closed : Bool
  exponent : Int

/-- The range of a double, which is narrower below a power of two. -/
def Range.ofBinary (b : Binary) : Range where
  center := 4 * b.mantissa
  below := if b.mantissa == Nat.pow 2 52 && b.exponent != -1074 then 1 else 2
  above := 2
  closed := b.mantissa % 2 == 0
  exponent := b.exponent - 2

/-- Whether the range holds a quotient of its own unit. -/
def Range.holds (r : Range) (num den : Nat) : Bool :=
  let low := (r.center - r.below) * den
  let high := (r.center + r.above) * den
  if r.closed then low ≤ num && num ≤ high else low < num && num < high

/-- Of the two decimals with last place `10 ^ place` around the center, the nearest that the range
holds; a tie goes to the even one. -/
def Range.nearest? (r : Range) (place : Int) : Option Nat :=
  let (num, den) := (⟨false, r.center, r.exponent⟩ : Binary).ratio
  let (num, den) := scaleTen num den (-place)
  let back (digits : Nat) : Bool :=
    let (unitNum, unitDen) := (⟨false, 1, -r.exponent⟩ : Binary).ratio
    let (num, den) := scaleTen (digits * unitNum) unitDen place
    r.holds num den
  let best := roundQuotient num den
  let other := if best == num / den then best + 1 else best - 1
  if back best then some best else if back other then some other else none

/-- Search the grids of `count` and more digits, the first hit wins. -/
def Range.search (r : Range) (lead : Int) : (fuel : Nat) → (count : Nat) → Nat × Int
  | 0, count => (0, lead - count)
  | fuel + 1, count =>
    let place := lead - count + 1
    match r.nearest? place with
    | some digits => (digits, place)
    | none => r.search lead fuel (count + 1)

/-- Drop trailing zeros, at most `fuel` of them. -/
def stripZeros : (fuel : Nat) → Nat → Int → Nat × Int
  | 0, digits, exponent => (digits, exponent)
  | fuel + 1, digits, exponent =>
    if digits % 10 == 0 then stripZeros fuel (digits / 10) (exponent + 1) else (digits, exponent)

/-- The shortest decimal that rounds to the double; of several, the nearest. -/
def shortest (b : Binary) : Scientific :=
  if b.mantissa == 0 then ⟨b.negative, 0, 0⟩
  else
    let (num, den) := b.ratio
    let (digits, exponent) := (Range.ofBinary b).search (leadingExponent num den) 17 1
    let (digits, exponent) := stripZeros 17 digits exponent
    ⟨b.negative, digits, exponent⟩

/-- The value rounded to a number of decimal places, a tie going to the even digit. -/
def rounded (places : Nat) (b : Binary) : Scientific :=
  let (num, den) := b.ratio
  ⟨b.negative, roundQuotient (num * Nat.pow 10 places) den, -(places : Int)⟩

end Fitout.Decimal
