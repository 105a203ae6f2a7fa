import Fitout.MessagePack.Basic
import Fitout.Text.Encoding

/-!
Packing JSON values. Each value takes the shortest form that holds it; a whole number beyond 64 bits
is packed as the text of its digits. Releases of the packer differ in whether they limit the number
of lists and maps that a value lies in.
-/

namespace Fitout.MessagePack

inductive EncodeError where
  /-- A text that has no bytes. -/
  | unencodable (reason : Text.Unencodable)
  | tooLong
  /-- A value in too many lists and maps. -/
  | tooDeep
  deriving DecidableEq, Repr

def EncodeError.message : EncodeError → String
  | unencodable reason => reason.message
  | tooLong => "value is too large"
  | tooDeep => "recursion limit exceeded"

/-- The head of a text of so many bytes. -/
def textHead (n : Nat) : Bytes :=
  if n < 32 then [UInt8.ofNat (0xA0 + n)]
  else if n < 256 then 0xD9 :: Bytes.bigEndian 1 n
  else if n < 65536 then 0xDA :: Bytes.bigEndian 2 n
  else 0xDB :: Bytes.bigEndian 4 n

/-- The head of a list of so many items. -/
def listHead (n : Nat) : Bytes :=
  if n < 16 then [UInt8.ofNat (0x90 + n)]
  else if n < 65536 then 0xDC :: Bytes.bigEndian 2 n
  else 0xDD :: Bytes.bigEndian 4 n

/-- The head of a map of so many entries. -/
def mapHead (n : Nat) : Bytes :=
  if n < 16 then [UInt8.ofNat (0x80 + n)]
  else if n < 65536 then 0xDE :: Bytes.bigEndian 2 n
  else 0xDF :: Bytes.bigEndian 4 n

/-- A size that a head can hold. -/
def sized (n : Nat) : Except EncodeError Nat :=
  if n < Nat.pow 2 32 then .ok n else .error .tooLong

def packText (s : String) : Except EncodeError Bytes :=
  match Text.Encoding.utf8.refusal? s with
  | some reason => .error (.unencodable reason)
  | none => do
    let bytes := Bytes.ofText s
    return textHead (← sized bytes.length) ++ bytes

/-- How many numbers so many bits can tell apart. -/
def span (bits : Nat) : Nat :=
  Nat.pow 2 bits

/-- A whole number of at most 64 bits. -/
def packSmall (n : Int) : Bytes :=
  match n with
  | .ofNat m =>
    if m < span 7 then [UInt8.ofNat m]
    else if m < span 8 then 0xCC :: Bytes.bigEndian 1 m
    else if m < span 16 then 0xCD :: Bytes.bigEndian 2 m
    else if m < span 32 then 0xCE :: Bytes.bigEndian 4 m
    else 0xCF :: Bytes.bigEndian 8 m
  | .negSucc m =>
    if m < span 5 then [UInt8.ofNat (span 8 - 1 - m)]
    else if m < span 7 then 0xD0 :: Bytes.bigEndian 1 (span 8 - 1 - m)
    else if m < span 15 then 0xD1 :: Bytes.bigEndian 2 (span 16 - 1 - m)
    else if m < span 31 then 0xD2 :: Bytes.bigEndian 4 (span 32 - 1 - m)
    else 0xD3 :: Bytes.bigEndian 8 (span 64 - 1 - m)

/-- Whether a whole number has a form of its own. -/
def fits (n : Int) : Bool :=
  -(span 63 : Int) ≤ n && n < span 64

def packReal (x : Float) : Bytes :=
  0xCB :: Bytes.bigEndian 8 x.toBits.toNat

/-- In how many lists and maps a value may lie, for a packer that counts them. -/
def usualNesting : Nat := 511

/-- Whether a value may lie inside so many lists and maps, of which there is a most or none. -/
def mayLie (most : Option Nat) (inside : Nat) : Except EncodeError Unit :=
  if most.any (· < inside) then .error .tooDeep else .ok ()

mutual

/-- The bytes of a value that lies inside so many lists and maps. -/
def encodeInside (most : Option Nat) (inside : Nat) : Json → Except EncodeError Bytes
  | .null => .ok [0xC0]
  | .bool b => .ok [if b then 0xC3 else 0xC2]
  | .number (.whole n) => if fits n then .ok (packSmall n) else packText (toString n)
  | .number (.real x) => .ok (packReal x)
  | .text s => packText s
  | .list items => do
    return listHead (← sized items.length) ++ (← packItems most (inside + 1) items)
  | .object members => do
    return mapHead (← sized members.length) ++ (← packMembers most (inside + 1) members)

def packItems (most : Option Nat) (inside : Nat) : List Json → Except EncodeError Bytes
  | [] => .ok []
  | item :: rest => do
    mayLie most inside
    return (← encodeInside most inside item) ++ (← packItems most inside rest)

def packMembers (most : Option Nat) (inside : Nat) :
    List (String × Json) → Except EncodeError Bytes
  | [] => .ok []
  | (key, value) :: rest => do
    mayLie most inside
    return (← packText key) ++ (← encodeInside most inside value) ++
      (← packMembers most inside rest)

end

/-- The bytes of a value, of a packer with a most for the lists and maps around a value or none. -/
def encode (most : Option Nat) (value : Json) : Except EncodeError Bytes :=
  encodeInside most 0 value

end Fitout.MessagePack
