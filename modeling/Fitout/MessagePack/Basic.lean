import Fitout.Json.Basic
import Fitout.Text.Utf8

/-!
MessagePack values and their bytes.
-/

namespace Fitout

namespace MessagePack

/-- The key of a map entry. -/
inductive Key where
  | text (s : String)
  | bytes (b : Bytes)
  deriving DecidableEq

inductive Value where
  | null
  | bool (b : Bool)
  | whole (n : Int)
  | real (x : Float)
  | text (s : String)
  | bytes (b : Bytes)
  | list (items : List Value)
  | map (entries : List (Key × Value))
  /-- A value of an application's own type, known by a code. -/
  | custom (code : Int) (data : Bytes)

/-- Set an entry: one that exists keeps its place, another goes to the end. -/
def setEntry (key : Key) (value : Value) : List (Key × Value) → List (Key × Value)
  | [] => [(key, value)]
  | (k, v) :: rest => if k == key then (key, value) :: rest else (k, v) :: setEntry key value rest

/-- The entries read one after the other, later ones taking the place of earlier ones. -/
def distinctEntries (entries : List (Key × Value)) : List (Key × Value) :=
  entries.foldl (fun known (key, value) => setEntry key value known) []

/-- A text that no bytes spell, since it begins with half of a surrogate pair. -/
def setApart (shown : String) (data : Bytes) : String :=
  Text.ofCodes (.half 0 :: (Text.codes shown ++ Text.keptCodes data))

/-- The text that bytes spell, or else one that is set apart. -/
def shownBytes (bytes : Bytes) : String :=
  (Bytes.text? bytes).getD (setApart "" bytes)

mutual

/-- A value as JSON. No text that is unpacked holds half of a surrogate pair, so texts with halves
stand for what JSON lacks: bytes that spell no text, custom values, and keys in bytes. No field of a
catalog takes such a text and nothing is looked up under such a name, as with what they stand for,
and bytes that spell a text are taken for it in all fields. So the entities that are read off the
value are right. What may not be is the kind by which a report names the value as a whole, and the
number of issues with a custom value in place of a list. -/
def Value.toJson : Value → Json
  | null => .null
  | bool b => .bool b
  | whole n => .whole n
  | real x => .real x
  | text s => .text s
  | bytes b => .text (shownBytes b)
  | list items => .list (itemsToJson items)
  | map entries => .object (entriesToJson entries)
  | custom code data => .text (setApart (toString code) data)

def Value.itemsToJson : List Value → List Json
  | [] => []
  | item :: rest => item.toJson :: itemsToJson rest

def Value.entriesToJson : List (Key × Value) → List (String × Json)
  | [] => []
  | (.text s, value) :: rest => (s, value.toJson) :: entriesToJson rest
  | (.bytes b, value) :: rest => (setApart "" b, value.toJson) :: entriesToJson rest

end

end MessagePack

end Fitout
