import Fitout.Json.Basic
import Fitout.Text.Encoding

/-!
Two printed forms of JSON values: the compact interchange form, and the form in which messages
quote a value. Of the first there is a strict variety, without special numbers and halves of
surrogate pairs, in which not every value can be written.
-/

namespace Fitout.Json

/-- A character inside a JSON string; only what must be escaped is. -/
def escapeChar (c : Char) : String :=
  if c == '"' then "\\\""
  else if c == '\\' then "\\\\"
  else if c == '\n' then "\\n"
  else if c == '\r' then "\\r"
  else if c == '\t' then "\\t"
  else if c.toNat == 0x0C then "\\f"
  else if c.toNat == 0x08 then "\\b"
  else if c.toNat < 0x20 then "\\u" ++ Text.hex 4 c.toNat
  else c.toString

/-- A code inside a JSON string; halves of surrogate pairs are escaped as well. -/
def escapeCode : Text.Code → String
  | .char c => escapeChar c
  | .half n => "\\u" ++ Text.hex 4 (Text.Code.half n).value

def encodeString (s : String) : String :=
  "\"" ++ Text.ofChars ((Text.codes s).flatMap fun code => (escapeCode code).toList) ++ "\""

def encodeNumber : Number → String
  | .whole n => toString n
  | .real x => Decimal.textOf .data x

mutual

/-- The interchange form without any space. -/
def compact : Json → String
  | null => "null"
  | bool b => if b then "true" else "false"
  | number n => encodeNumber n
  | text s => encodeString s
  | list items => "[" ++ ",".intercalate (compactItems items) ++ "]"
  | object members => "\x7b" ++ ",".intercalate (compactMembers members) ++ "\x7d"

def compactItems : List Json → List String
  | [] => []
  | item :: rest => compact item :: compactItems rest

def compactMembers : List (String × Json) → List String
  | [] => []
  | (key, value) :: rest => (encodeString key ++ ":" ++ compact value) :: compactMembers rest

end

mutual

def isFinite : Json → Bool
  | number (.real x) => x.isFinite
  | list items => isFiniteItems items
  | object members => isFiniteMembers members
  | _ => true

def isFiniteItems : List Json → Bool
  | [] => true
  | item :: rest => isFinite item && isFiniteItems rest

def isFiniteMembers : List (String × Json) → Bool
  | [] => true
  | (_, value) :: rest => isFinite value && isFiniteMembers rest

end

mutual

/-- The texts in a value, and the names of its members. -/
def texts : Json → List String
  | text s => [s]
  | list items => textsOfItems items
  | object members => textsOfMembers members
  | _ => []

def textsOfItems : List Json → List String
  | [] => []
  | item :: rest => texts item ++ textsOfItems rest

def textsOfMembers : List (String × Json) → List String
  | [] => []
  | (key, value) :: rest => key :: texts value ++ textsOfMembers rest

end

/-- Why a value has no strict form. -/
inductive WriteError where
  | notFinite
  | unencodable (reason : Text.Unencodable)
  deriving DecidableEq, Repr

def WriteError.message : WriteError → String
  | notFinite => "Out of range float values are not JSON compliant"
  | unencodable reason => reason.message

/-- What keeps a value from being written in the strict form. -/
def writeError? (value : Json) : Option WriteError :=
  if value.isFinite then
    (value.texts.findSome? Text.Encoding.utf8.refusal?).map .unencodable
  else some .notFinite

mutual

/-- The form of a value inside another one: texts are quoted. -/
def quoted : Json → String
  | null => "None"
  | bool b => if b then "True" else "False"
  | number n => n.text
  | text s => Text.quoted s
  | list items => "[" ++ ", ".intercalate (quotedItems items) ++ "]"
  | object members => "\x7b" ++ ", ".intercalate (quotedMembers members) ++ "\x7d"

def quotedItems : List Json → List String
  | [] => []
  | item :: rest => quoted item :: quotedItems rest

def quotedMembers : List (String × Json) → List String
  | [] => []
  | (key, value) :: rest => (Text.quoted key ++ ": " ++ quoted value) :: quotedMembers rest

end

/-- The form of a value in a message: a text as it is, any other value quoted. -/
def plain : Json → String
  | text s => s
  | value => quoted value

end Fitout.Json
