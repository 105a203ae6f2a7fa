/-!
Doubles taken apart exactly: a finite one is an integer times a power of two.
-/

namespace Fitout.Decimal

/-- The number `± mantissa * 2 ^ exponent`. -/
structure Binary where
  negative : Bool
  mantissa : Nat
  exponent : Int
  deriving DecidableEq

/-- The exact value of a finite double; an infinity and "not a number" have none. -/
def Binary.ofFloat? (x : Float) : Option Binary :=
  let bits : Nat := x.toBits.toNat
  let negative := bits / Nat.pow 2 63 == 1
  let field : Nat := bits / Nat.pow 2 52 % Nat.pow 2 11
  let fraction : Nat := bits % Nat.pow 2 52
  if field == 2047 then none
  else if field == 0 then some ⟨negative, fraction, -1074⟩
  else some ⟨negative, fraction + Nat.pow 2 52, Int.ofNat field - 1075⟩

/-- The magnitude without its fraction. -/
def Binary.wholePart (b : Binary) : Nat :=
  match b.exponent with
  | .ofNat e => b.mantissa * Nat.pow 2 e
  | .negSucc e => b.mantissa / Nat.pow 2 (e + 1)

/-- The value rounded toward zero. -/
def Binary.truncate (b : Binary) : Int :=
  if b.negative then -b.wholePart else b.wholePart

/-- Whether the value has no fraction. -/
def Binary.isWhole (b : Binary) : Bool :=
  match b.exponent with
  | .ofNat _ => true
  | .negSucc e => b.mantissa % Nat.pow 2 (e + 1) == 0

/-- The magnitude as a quotient of natural numbers. -/
def Binary.ratio (b : Binary) : Nat × Nat :=
  match b.exponent with
  | .ofNat e => (b.mantissa * Nat.pow 2 e, 1)
  | .negSucc e => (b.mantissa, Nat.pow 2 (e + 1))

end Fitout.Decimal
