import Fitout.Decimal.Reader

/-!
Whole numbers in data fields. A numeral is an optional minus and digits without leading zeros.
Around it a field may have white space, a plus, leading zeros, single underscores and a fraction of
zeros.
-/

namespace Fitout.Decimal

/-- Whole numbers with more digits are refused. -/
def digitLimit : Nat := 4300

namespace Whole

inductive Fault where
  | malformed
  /-- A numeral with more characters than `digitLimit`. -/
  | tooLong
  deriving DecidableEq, Repr

/-- A minus, if there is one, and what follows. -/
def splitMinus : List Char → Bool × List Char
  | '-' :: rest => (true, rest)
  | cs => (false, cs)

/-- The value of a numeral that takes up the whole text. -/
def ofNumeral? (cs : List Char) : Option Int :=
  let (negative, digits) := splitMinus cs
  let led := digits == ['0'] || (!digits.isEmpty && digits.head? != some '0')
  if led && digits.all Text.isAsciiDigit then
    let n : Int := Text.digitsValue digits
    some (if negative then -n else n)
  else none

/-- Whether a text begins with a numeral that is too long. -/
def isTooLong (cs : List Char) : Bool :=
  let (negative, digits) := splitMinus cs
  let run := digits.takeWhile Text.isAsciiDigit
  run.head? != some '0' && digitLimit < run.length + negative.toNat

/-- What follows a zero and the zeros and underscores after it. Nothing may be left, and then the
last of them counts; a point keeps the character before it. -/
def afterZero? (last : Char) : List Char → Option (List Char)
  | [] => some [last]
  | c :: rest =>
    if c == '0' || c == '_' then afterZero? c rest
    else if Text.isAsciiDigit c || c == '-' then some (c :: rest)
    else if c == '.' then some (last :: c :: rest)
    else none

/-- A numeral without the zeros that lead it; a minus may follow them. -/
def dropZeros? : List Char → Option (List Char)
  | [] => none
  | c :: rest =>
    if c == '0' then afterZero? c rest
    else if Text.isAsciiDigit c || c == '-' then some (c :: rest)
    else none

/-- A numeral without its sign, if that is a plus, and without leading zeros. -/
def withoutLead? : List Char → Option (List Char)
  | '+' :: '-' :: _ => none
  | '+' :: rest => dropZeros? rest
  | '-' :: rest => (dropZeros? rest).map ('-' :: ·)
  | cs => dropZeros? cs

/-- A numeral without its fraction, if that consists of zeros. -/
def withoutFraction (cs : List Char) : List Char :=
  let digits := cs.takeWhile (· != '.')
  let fraction := cs.drop digits.length
  if 1 < fraction.length && fraction.tail.all (· == '0') then digits else cs

/-- The numeral that a field is meant to hold. -/
def cleaned? (cs : List Char) : Option (List Char) :=
  (withoutLead? (Text.trimChars Text.isBlank cs)).map fun numeral =>
    let numeral := withoutFraction numeral
    (dropSingleUnderscores? numeral).getD numeral

/-- The whole number in a field, which is a numeral as it stands or once it is cleaned. -/
def ofField (s : String) : Except Fault Int :=
  let cs := s.toList
  if isTooLong cs then .error .tooLong
  else match ofNumeral? cs with
    | some n => .ok n
    | none =>
      match ((cleaned? cs).filter (!isTooLong ·)).bind ofNumeral? with
      | some n => .ok n
      | none => .error .malformed

/-- A whole number as people type it: white space around it, a sign, digits of any script, and
underscores between digits. -/
def ofUserText? (s : String) : Option Int := do
  let (negative, body) := splitSign ((Text.trim s).toList.map asciiDigit)
  let digits ← dropDigitSeparators? none body
  if !digits.isEmpty && digits.all Text.isAsciiDigit && digits.length ≤ digitLimit then
    let n : Int := Text.digitsValue digits
    some (if negative then -n else n)
  else none

end Whole

end Fitout.Decimal
