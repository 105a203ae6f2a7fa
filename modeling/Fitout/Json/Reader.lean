import Fitout.Decimal.Whole
import Fitout.Json.Basic
import Fitout.Text.Code

/-!
Reading JSON text. Besides the standard's numbers the reader takes `NaN`, `Infinity` and
`-Infinity`; a number with a point or an exponent is a double, any other is whole. Of members with
one name the last counts.
-/

namespace Fitout.Json

inductive Container where
  | list
  | object
  deriving DecidableEq, Repr

def Container.name : Container → String
  | list => "array"
  | object => "object"

/-- What is reported of a list or an object that is too deep. -/
def Container.message (c : Container) : String :=
  "maximum recursion depth exceeded while decoding a JSON " ++ c.name ++ " from a unicode string"

inductive ReadError where
  /-- Anything but a value where one is due, or text after the value. -/
  | unexpected
  /-- A whole number with more digits than `Decimal.digitLimit`. -/
  | tooManyDigits
  /-- A list or object inside too many others. -/
  | tooDeep (container : Container)
  /-- Bytes that spell no text. -/
  | misspelled
  deriving DecidableEq, Repr

/-- How many lists and objects may be open at a time. The reader stops where the stack of calls is
full, so the number stands for what the limit of 1000 calls leaves to it where the stack is as deep
as in a request. `readWithin` takes any other number. -/
def depthLimit : Nat := 960

def isSpace (c : Char) : Bool :=
  c == ' ' || c == '\t' || c == '\n' || c == '\r'

def skipSpace (cs : List Char) : List Char :=
  cs.dropWhile isSpace

theorem length_dropWhile_le (cut : Char → Bool) (cs : List Char) :
    (cs.dropWhile cut).length ≤ cs.length :=
  (List.dropWhile_suffix cut).length_le

theorem length_skipSpace_le (cs : List Char) : (skipSpace cs).length ≤ cs.length :=
  length_dropWhile_le isSpace cs

/-- A part of the text that is read, and what follows it, which is shorter than `size`. -/
structure Part (α : Type) (size : Nat) where
  value : α
  rest : List Char
  shorter : rest.length < size

def Part.weaken {α : Type} {n m : Nat} (p : Part α n) (h : n ≤ m) : Part α m :=
  ⟨p.value, p.rest, Nat.lt_of_lt_of_le p.shorter h⟩

def hexQuad? (a b c d : Char) : Option Nat := do
  let high := (← Text.hexValue? a) * 16 + (← Text.hexValue? b)
  let low := (← Text.hexValue? c) * 16 + (← Text.hexValue? d)
  return high * 256 + low

/-- The character that stands for itself after a backslash or by its letter. -/
def shortEscape? (c : Char) : Option Char :=
  if c == '"' || c == '\\' || c == '/' then some c
  else if c == 'b' then some (Char.ofNat 8)
  else if c == 'f' then some (Char.ofNat 12)
  else if c == 'n' then some '\n'
  else if c == 'r' then some '\r'
  else if c == 't' then some '\t'
  else none

/-- What was read of a string: codes up to the last escape, and the characters after it, which are
still to be taken for the codes they spell together. Both have the latest first. -/
structure Scanned where
  codes : List Text.Code
  plain : List Char

namespace Scanned

def nothing : Scanned :=
  ⟨[], []⟩

/-- All that was read, the latest first. -/
def allCodes (s : Scanned) : List Text.Code :=
  (Text.codesAfter 0 s.plain.reverse).reverseAux s.codes

def text (s : Scanned) : String :=
  Text.ofCodes s.allCodes.reverse

/-- Go on with a character that stands in the text. -/
def pushPlain (s : Scanned) (c : Char) : Scanned :=
  { s with plain := c :: s.plain }

/-- Go on with a code that is escaped. -/
def pushEscaped (s : Scanned) (code : Text.Code) : Scanned :=
  ⟨code :: s.allCodes, []⟩

end Scanned

/-- The rest of a string after its opening quote, and after what was read of it. -/
def readString (read : Scanned) : (cs : List Char) → Except ReadError (Part String cs.length)
  | [] => .error .unexpected
  | '"' :: rest => .ok ⟨read.text, rest, by simp⟩
  | '\\' :: 'u' :: a :: b :: c :: d :: '\\' :: 'u' :: e :: f :: g :: h :: rest =>
    match hexQuad? a b c d with
    | none => .error .unexpected
    | some high =>
      match (hexQuad? e f g h).bind (Text.joined? high) with
      | some c => (readString (read.pushEscaped (.char c)) rest).map (·.weaken (by simp; omega))
      | none =>
        (readString (read.pushEscaped (.ofNat high))
          ('\\' :: 'u' :: e :: f :: g :: h :: rest)).map (·.weaken (by simp))
  | '\\' :: 'u' :: a :: b :: c :: d :: rest =>
    match hexQuad? a b c d with
    | none => .error .unexpected
    | some code =>
      (readString (read.pushEscaped (.ofNat code)) rest).map (·.weaken (by simp; omega))
  | '\\' :: c :: rest =>
    match shortEscape? c with
    | none => .error .unexpected
    | some c => (readString (read.pushEscaped (.char c)) rest).map (·.weaken (by simp; omega))
  | c :: rest =>
    if c.toNat < 0x20 || c == '\\' then .error .unexpected
    else (readString (read.pushPlain c) rest).map (·.weaken (by simp))
termination_by cs => cs.length

/-- The exponent part at the head of a text, if it is complete. -/
def splitExponent (cs : List Char) : Option (Int × List Char) :=
  match cs with
  | mark :: more =>
    if mark == 'e' || mark == 'E' then
      let (negative, digits) := Decimal.splitSign more
      let run := digits.takeWhile Text.isAsciiDigit
      if run.isEmpty then none
      else
        let value : Int := Text.digitsValue run
        some (if negative then -value else value, digits.dropWhile Text.isAsciiDigit)
    else none
  | [] => none

/-- The fraction at the head of a text, if it is complete. -/
def splitFraction (cs : List Char) : Option (List Char × List Char) :=
  match cs with
  | '.' :: more =>
    let run := more.takeWhile Text.isAsciiDigit
    if run.isEmpty then none else some (run, more.dropWhile Text.isAsciiDigit)
  | _ => none

theorem length_splitExponent {cs rest : List Char} {e : Int}
    (h : splitExponent cs = some (e, rest)) : rest.length ≤ cs.length := by
  unfold splitExponent at h
  split at h
  · rename_i mark more
    split at h
    · simp only [Option.ite_none_left_eq_some, Option.some.injEq, Prod.mk.injEq] at h
      rw [← h.2.2]
      refine Nat.le_trans (length_dropWhile_le _ _) ?_
      unfold Decimal.splitSign
      split <;> simp <;> omega
    · simp at h
  · simp at h

theorem length_splitFraction {cs run rest : List Char}
    (h : splitFraction cs = some (run, rest)) : rest.length ≤ cs.length := by
  unfold splitFraction at h
  split at h
  · simp only [Option.ite_none_left_eq_some, Option.some.injEq, Prod.mk.injEq] at h
    rw [← h.2.2]
    exact Nat.le_trans (length_dropWhile_le _ _) (by simp)
  · simp at h

/-- The digits before a point: a zero alone, or a run that starts with none. -/
def splitWhole : (cs : List Char) → Option (Part (List Char) cs.length)
  | '0' :: rest => some ⟨['0'], rest, by simp⟩
  | c :: rest =>
    if Text.isAsciiDigit c then
      some ⟨c :: rest.takeWhile Text.isAsciiDigit, rest.dropWhile Text.isAsciiDigit,
        Nat.lt_of_le_of_lt (length_dropWhile_le _ _) (by simp)⟩
    else none
  | [] => none

/-- A number; a fraction or an exponent that is not complete does not belong to it. -/
def readUnsigned (negative : Bool) (cs : List Char) : Except ReadError (Part Json cs.length) :=
  match splitWhole cs with
  | none => .error .unexpected
  | some ⟨run, rest, shorter⟩ =>
    match fraction : splitFraction rest with
    | some (after, tail) =>
      have tail_le := length_splitFraction fraction
      match exponent : splitExponent tail with
      | some (e, final) =>
        have final_le := length_splitExponent exponent
        .ok ⟨real (⟨negative, Text.digitsValue (run ++ after), e - after.length⟩ :
          Decimal.Scientific).toFloat, final, by omega⟩
      | none =>
        .ok ⟨real (⟨negative, Text.digitsValue (run ++ after), -after.length⟩ :
          Decimal.Scientific).toFloat, tail, by omega⟩
    | none =>
      match exponent : splitExponent rest with
      | some (e, final) =>
        have final_le := length_splitExponent exponent
        .ok ⟨real (⟨negative, Text.digitsValue run, e⟩ : Decimal.Scientific).toFloat, final,
          by omega⟩
      | none =>
        if Decimal.digitLimit < run.length then .error .tooManyDigits
        else
          let n : Int := Text.digitsValue run
          .ok ⟨whole (if negative then -n else n), rest, shorter⟩

/-- A word that stands for a value. -/
def readWord (cs : List Char) : Option (Part Json cs.length) :=
  match cs with
  | 'n' :: 'u' :: 'l' :: 'l' :: rest => some ⟨null, rest, by simp; omega⟩
  | 't' :: 'r' :: 'u' :: 'e' :: rest => some ⟨bool true, rest, by simp; omega⟩
  | 'f' :: 'a' :: 'l' :: 's' :: 'e' :: rest => some ⟨bool false, rest, by simp; omega⟩
  | 'N' :: 'a' :: 'N' :: rest => some ⟨real Decimal.notANumber, rest, by simp; omega⟩
  | 'I' :: 'n' :: 'f' :: 'i' :: 'n' :: 'i' :: 't' :: 'y' :: rest =>
    some ⟨real Decimal.infinity, rest, by simp; omega⟩
  | '-' :: 'I' :: 'n' :: 'f' :: 'i' :: 'n' :: 'i' :: 't' :: 'y' :: rest =>
    some ⟨real (-Decimal.infinity), rest, by simp; omega⟩
  | _ => none

def readAtom (cs : List Char) : Except ReadError (Part Json cs.length) :=
  match readWord cs with
  | some part => .ok part
  | none =>
    match cs with
    | '-' :: rest => (readUnsigned true rest).map (·.weaken (by simp))
    | cs => readUnsigned false cs

mutual

/-- A value at the head of a text, with room for so many lists and objects in each other. -/
def readValue (room : Nat) (cs : List Char) : Except ReadError (Part Json cs.length) :=
  match cs with
  | '"' :: rest => (readString .nothing rest).map fun p => ⟨.text p.value, p.rest, by
      have := p.shorter; simp; omega⟩
  | '[' :: rest =>
    if room = 0 then .error (.tooDeep .list)
    else match h : skipSpace rest with
    | ']' :: tail => .ok ⟨list [], tail, by
        have := length_skipSpace_le rest; simp_all; omega⟩
    | tail => (readItems (room - 1) tail).map fun p => ⟨list p.value, p.rest, by
        have := p.shorter; have := length_skipSpace_le rest; simp_all; omega⟩
  | '\x7b' :: rest =>
    if room = 0 then .error (.tooDeep .object)
    else match h : skipSpace rest with
    | '\x7d' :: tail => .ok ⟨object [], tail, by
        have := length_skipSpace_le rest; simp_all; omega⟩
    | tail => (readMembers (room - 1) tail).map fun p =>
        ⟨object (distinctMembers p.value), p.rest, by
          have := p.shorter; have := length_skipSpace_le rest; simp_all; omega⟩
  | cs => readAtom cs
termination_by 2 * cs.length
decreasing_by
  all_goals
    have := length_skipSpace_le rest
    simp_all
    try omega

/-- The items of a list up to its closing bracket. -/
def readItems (room : Nat) (cs : List Char) : Except ReadError (Part (List Json) cs.length) :=
  match readValue room cs with
  | .error e => .error e
  | .ok item =>
    match h : skipSpace item.rest with
    | ']' :: tail => .ok ⟨[item.value], tail, by
        have := item.shorter; have := length_skipSpace_le item.rest; simp_all; omega⟩
    | ',' :: tail => (readItems room (skipSpace tail)).map fun p =>
        ⟨item.value :: p.value, p.rest, by
          have := p.shorter; have := item.shorter; have := length_skipSpace_le item.rest
          have := length_skipSpace_le tail; simp_all; omega⟩
    | _ => .error .unexpected
termination_by 2 * cs.length + 1
decreasing_by
  · omega
  · have := item.shorter; have := length_skipSpace_le item.rest
    have := length_skipSpace_le tail; simp_all; omega

/-- The members of an object up to its closing brace. -/
def readMembers (room : Nat) (cs : List Char) :
    Except ReadError (Part (List (String × Json)) cs.length) :=
  match cs with
  | '"' :: rest =>
    match readString .nothing rest with
    | .error e => .error e
    | .ok key =>
      match h : skipSpace key.rest with
      | ':' :: start =>
        match readValue room (skipSpace start) with
        | .error e => .error e
        | .ok value =>
          match h' : skipSpace value.rest with
          | '\x7d' :: tail => .ok ⟨[(key.value, value.value)], tail, by
              have := key.shorter; have := length_skipSpace_le key.rest
              have := length_skipSpace_le start; have := value.shorter
              have := length_skipSpace_le value.rest; simp_all; omega⟩
          | ',' :: tail =>
            (readMembers room (skipSpace tail)).map fun p =>
              ⟨(key.value, value.value) :: p.value, p.rest, by
                have := key.shorter; have := length_skipSpace_le key.rest
                have := length_skipSpace_le start; have := value.shorter
                have := length_skipSpace_le value.rest; have := length_skipSpace_le tail
                have := p.shorter; simp_all; omega⟩
          | _ => .error .unexpected
      | _ => .error .unexpected
  | _ => .error .unexpected
termination_by 2 * cs.length + 1
decreasing_by
  · have := key.shorter; have := length_skipSpace_le key.rest
    have := length_skipSpace_le start; simp_all; omega
  · have := key.shorter; have := length_skipSpace_le key.rest
    have := length_skipSpace_le start; have := value.shorter
    have := length_skipSpace_le value.rest; have := length_skipSpace_le tail
    simp_all; omega

end

/-- The value that a text is, with white space around it. -/
def readWithin (room : Nat) (s : String) : Except ReadError Json :=
  match readValue room (skipSpace s.toList) with
  | .error e => .error e
  | .ok part => if (skipSpace part.rest).isEmpty then .ok part.value else .error .unexpected

/-- The value that a text is, if it is not too deep. -/
def read (s : String) : Except ReadError Json :=
  readWithin depthLimit s

end Fitout.Json
