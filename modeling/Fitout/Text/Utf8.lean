import Fitout.Bytes

/-!
UTF-8 that need not be well formed. Bytes fall into those that spell characters and those between
them, which may be replaced, kept as halves of surrogate pairs, or taken for the halves they spell.
-/

namespace Fitout.Text

/-- The character in place of bytes that are not well formed. -/
def replacement : Char :=
  Char.ofNat 0xFFFD

/-- The character at the head of bytes, and how many of them spell it. -/
def headChar? (bytes : Bytes) : Option (Char × Nat) :=
  [1, 2, 3, 4].findSome? fun n =>
    match (Bytes.text? (bytes.take n)).map chars with
    | some [c] => some (c, n)
    | _ => none

/-- Whether a byte may be the second one of a character with this first one. -/
def maySucceed (first second : UInt8) : Bool :=
  let low : UInt8 := if first == 0xE0 then 0xA0 else if first == 0xF0 then 0x90 else 0x80
  let high : UInt8 := if first == 0xED then 0x9F else if first == 0xF4 then 0x8F else 0xBF
  low ≤ second && second ≤ high

/-- How many of the bytes that spell no character belong together: as many as begin one, but at
least one. -/
def brokenLength : Bytes → Nat
  | first :: second :: rest =>
    if 0xE0 ≤ first && first ≤ 0xF4 && maySucceed first second then
      if 0xF0 ≤ first && rest.head?.any (maySucceed 0) then 3 else 2
    else 1
  | _ => 1

inductive Piece where
  | char (c : Char)
  /-- Bytes that spell no character. -/
  | broken (bytes : Bytes)

def pieces : Bytes → List Piece
  | [] => []
  | b :: rest =>
    match headChar? (b :: rest) with
    | some (c, n) => .char c :: pieces (rest.drop (n - 1))
    | none =>
      let n := brokenLength (b :: rest)
      .broken ((b :: rest).take n) :: pieces (rest.drop (n - 1))
termination_by bytes => bytes.length

/-- The text of bytes, with a replacement for those that spell no character. -/
def replacedText (bytes : Bytes) : String :=
  ofChars ((pieces bytes).map fun
    | .char c => c
    | .broken _ => replacement)

/-- The half that keeps a byte that spells no character. -/
def halfOfByte (b : UInt8) : Half :=
  ⟨0x400 + b.toNat, by have := b.toNat_lt; omega⟩

/-- The codes of bytes, with a half for each byte that spells no character. -/
def keptCodes (bytes : Bytes) : List Code :=
  (pieces bytes).flatMap fun
    | .char c => [.char c]
    | .broken bytes => bytes.map fun b => .half (halfOfByte b)

/-- The codes of pieces, of which three may spell a half; none if any other is broken. -/
def passedCodes? : List Piece → Option (List Code)
  | [] => some []
  | .char c :: rest => (passedCodes? rest).map (.char c :: ·)
  | .broken [first] :: .broken [second] :: .broken [third] :: rest =>
    if first == 0xED && 0xA0 ≤ second && second ≤ 0xBF && 0x80 ≤ third && third ≤ 0xBF then
      let code := 0xD000 + (second.toNat - 0x80) * 0x40 + (third.toNat - 0x80)
      (passedCodes? rest).map (.ofNat code :: ·)
    else none
  | .broken _ :: _ => none

end Fitout.Text
