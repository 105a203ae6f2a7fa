import Fitout.Json.Reader
import Fitout.Text.Utf8

/-!
Reading the content of a message as JSON. A byte order mark tells how the content is spelled.
Without one, the zero bytes among the first four do, since JSON text begins with a character of
ASCII. Content in UTF-8 may spell halves of surrogate pairs.
-/

namespace Fitout.Json

inductive ByteOrder where
  | big
  | little
  deriving DecidableEq, Repr

/-- The number that bytes stand for. -/
def ByteOrder.value : ByteOrder → Bytes → Nat
  | big, bytes => Bytes.ofBigEndian bytes
  | little, bytes => Bytes.ofBigEndian bytes.reverse

/-- How characters are put into bytes. -/
inductive Spelling where
  | utf8
  | utf16 (order : ByteOrder)
  | utf32 (order : ByteOrder)
  deriving DecidableEq, Repr

namespace Spelling

/-- The spelling that the first bytes of a content show. -/
def ofHead : Bytes → Spelling
  | a :: b :: c :: d :: _ =>
    if a == 0 then if b == 0 then utf32 .big else utf16 .big
    else if b == 0 then if c == 0 && d == 0 then utf32 .little else utf16 .little
    else utf8
  | [a, b] => if a == 0 then utf16 .big else if b == 0 then utf16 .little else utf8
  | _ => utf8

/-- The byte order marks. The one for four bytes a character goes before the one it begins with. -/
def byteOrderMarks : List (Bytes × Spelling) :=
  [([0x00, 0x00, 0xFE, 0xFF], utf32 .big), ([0xFF, 0xFE, 0x00, 0x00], utf32 .little),
    ([0xFE, 0xFF], utf16 .big), ([0xFF, 0xFE], utf16 .little), ([0xEF, 0xBB, 0xBF], utf8)]

/-- How a content is spelled, and its bytes without a mark. -/
def ofContent (content : Bytes) : Spelling × Bytes :=
  match byteOrderMarks.find? fun (mark, _) => mark.isPrefixOf content with
  | some (mark, spelling) => (spelling, content.drop mark.length)
  | none => (ofHead content, content)

/-- Bytes in twos, if they come out even. -/
def pairs? (order : ByteOrder) : Bytes → Option (List Nat)
  | a :: b :: rest => (pairs? order rest).map (order.value [a, b] :: ·)
  | [] => some []
  | _ => none

/-- Bytes in fours, if they come out even and are numbers of codes. -/
def quads? (order : ByteOrder) : Bytes → Option (List Nat)
  | a :: b :: c :: d :: rest =>
    let code := order.value [a, b, c, d]
    if code < 0x110000 then (quads? order rest).map (code :: ·) else none
  | [] => some []
  | _ => none

/-- The codes of units of sixteen bits, two of which may make one together. -/
def joinUnits : List Nat → List Text.Code
  | high :: low :: rest =>
    match Text.joined? high low with
    | some c => .char c :: joinUnits rest
    | none => .ofNat high :: joinUnits (low :: rest)
  | [unit] => [.ofNat unit]
  | [] => []

/-- The codes that bytes spell. -/
def codes? (bytes : Bytes) : Spelling → Option (List Text.Code)
  | utf8 => Text.passedCodes? (Text.pieces bytes)
  | utf16 order => (pairs? order bytes).map joinUnits
  | utf32 order => (quads? order bytes).map fun codes => codes.map .ofNat

end Spelling

/-- The value of the content of a message. -/
def readBody (content : Bytes) : Except ReadError Json :=
  let (spelling, bytes) := Spelling.ofContent content
  match spelling.codes? bytes with
  | some codes => read (Text.ofCodes codes)
  | none => .error .misspelled

end Fitout.Json
