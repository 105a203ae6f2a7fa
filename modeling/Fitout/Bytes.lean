import Fitout.Text.Digit
import Fitout.Text.Printable

/-!
Bytes, and what they can stand for: numbers, texts, and two spellings of bytes in characters.
-/

namespace Fitout

abbrev Bytes := List UInt8

namespace Bytes

/-- A number in a fixed count of bytes, the highest first. -/
def bigEndian : (width : Nat) → Nat → Bytes
  | 0, _ => []
  | width + 1, n => UInt8.ofNat (n / Nat.pow 256 width) :: bigEndian width n

/-- The number that bytes stand for, the highest first. -/
def ofBigEndian (bytes : Bytes) : Nat :=
  bytes.foldl (fun n b => 256 * n + b.toNat) 0

/-- The number that bytes stand for in two's complement. -/
def ofTwosComplement (bytes : Bytes) : Int :=
  let n := ofBigEndian bytes
  let span := Nat.pow 256 bytes.length
  if 2 * n < span then n else (n : Int) - span

/-- The bytes of the characters of a text. -/
def ofText (s : String) : Bytes :=
  (String.ofList (Text.chars s)).toUTF8.data.toList

/-- The text that bytes stand for, if they are well formed. -/
def text? (bytes : Bytes) : Option String :=
  (String.fromUTF8? ⟨bytes.toArray⟩).map fun s => Text.ofChars s.toList

def hex (bytes : Bytes) : String :=
  String.join (bytes.map fun b => Text.hex 2 b.toNat)

/-- The bytes that pairs of hexadecimal digits stand for; the rest from a pair of others on is left
out. -/
def ofHex : List Char → Bytes
  | high :: low :: rest =>
    match Text.hexValue? high, Text.hexValue? low with
    | some a, some b => UInt8.ofNat (16 * a + b) :: ofHex rest
    | _, _ => []
  | _ => []

/-- The characters for six bits. -/
def base64Digits : List Char :=
  "ABCDEFGHIJKLMNOPQRSTUVWXYZabcdefghijklmnopqrstuvwxyz0123456789+/".toList

/-- The lowest digits of a number in base 64, so many of them, the highest first. -/
def sixBits : (width : Nat) → Nat → List Char
  | 0, _ => []
  | width + 1, n => base64Digits.getD (n / Nat.pow 64 width % 64) '=' :: sixBits width n

/-- Bytes in base 64: three of them in four characters, with `=` for what lacks at the end. -/
def base64Chars : Bytes → List Char
  | a :: b :: c :: rest => sixBits 4 (ofBigEndian [a, b, c]) ++ base64Chars rest
  | [a, b] => sixBits 3 (ofBigEndian [a, b] * 4) ++ ['=']
  | [a] => sixBits 2 (ofBigEndian [a] * 16) ++ ['=', '=']
  | [] => []

def base64 (bytes : Bytes) : String :=
  String.ofList (base64Chars bytes)

end Bytes

end Fitout
