import Fitout.MessagePack.Basic

/-!
Unpacking values. All bytes must belong to one value, map keys are texts or bytes, and of entries
with one key the last counts.
-/

namespace Fitout.MessagePack

inductive DecodeError where
  /-- The bytes end inside a value. -/
  | incomplete
  /-- A byte that starts no value. -/
  | badFormat
  | badUtf8
  | badKey
  /-- A count that the bytes cannot fulfil. -/
  | tooMany
  | tooDeep
  | badTimestamp
  /-- A custom value whose code is below zero. -/
  | badCode
  /-- Bytes after the value. -/
  | extraBytes
  deriving DecidableEq, Repr

def DecodeError.message : DecodeError → String
  | incomplete => "Unpack failed: incomplete input"
  | badFormat => "the bytes are in no known format"
  | badUtf8 => "a text is not well formed"
  | badKey => "a map has a key that is neither text nor bytes"
  | tooMany => "a count exceeds what the bytes can hold"
  | tooDeep => "too many containers are open"
  | badTimestamp => "a timestamp has no valid length or fraction"
  | badCode => "code must be 0~127"
  | extraBytes => "unpack(b) received extra data."

/-- The number of containers that may be open at a time. -/
def openLimit : Nat := 1024

/-- The code of timestamps, whose data has one of three sizes. -/
def timestampCode : Int := -1

/-- A value that was read, and the bytes after it, of which there are fewer than `size`. -/
structure Part (α : Type) (size : Nat) where
  value : α
  rest : Bytes
  shorter : rest.length < size

def Part.weaken {α : Type} {n m : Nat} (p : Part α n) (h : n ≤ m) : Part α m :=
  ⟨p.value, p.rest, Nat.lt_of_lt_of_le p.shorter h⟩

/-- What was read of a sequence, which may be nothing. -/
structure Run (α : Type) (size : Nat) where
  value : α
  rest : Bytes
  noLonger : rest.length ≤ size

/-- A fixed count of bytes. -/
def take (n : Nat) (bytes : Bytes) : Except DecodeError (Run Bytes bytes.length) :=
  if bytes.length < n then .error .incomplete
  else .ok ⟨bytes.take n, bytes.drop n, by simp⟩

/-- A value made of a fixed count of bytes. -/
def fixed {α : Type} (n : Nat) (make : Bytes → Except DecodeError α) (bytes : Bytes) :
    Except DecodeError (Run α bytes.length) := do
  let run ← take n bytes
  return ⟨← make run.value, run.rest, run.noLonger⟩

def toText (bytes : Bytes) : Except DecodeError Value :=
  match Bytes.text? bytes with
  | some s => .ok (.text s)
  | none => .error .badUtf8

/-- The billionths of a second that a timestamp holds, in so far as it has one of three sizes. -/
def nanoseconds? (data : Bytes) : Option Nat :=
  match data.length with
  | 4 => some 0
  | 8 => some (Bytes.ofBigEndian data / Nat.pow 2 34)
  | 12 => some (Bytes.ofBigEndian (data.take 4))
  | _ => none

/-- A custom value: a code and its data. -/
def toCustom : Bytes → Except DecodeError Value
  | [] => .error .incomplete
  | first :: data =>
    let code := Bytes.ofTwosComplement [first]
    if code == timestampCode then
      if (nanoseconds? data).any (· < Nat.pow 10 9) then .ok (.custom code data)
      else .error .badTimestamp
    else if code < 0 then .error .badCode
    else .ok (.custom code data)

/-- A value whose size stands before it, in a fixed count of bytes. -/
def counted {α : Type} (width : Nat) (extra : Nat) (make : Bytes → Except DecodeError α)
    (bytes : Bytes) : Except DecodeError (Run α bytes.length) := do
  let size ← take width bytes
  let run ← fixed (Bytes.ofBigEndian size.value + extra) make size.rest
  return ⟨run.value, run.rest, Nat.le_trans run.noLonger size.noLonger⟩

def toKey : Value → Except DecodeError Key
  | .text s => .ok (.text s)
  | .bytes b => .ok (.bytes b)
  | _ => .error .badKey

/-- What the first byte of a value announces. -/
inductive Head where
  | done (value : Value)
  /-- A value of so many bytes. -/
  | scalar (size : Nat) (make : Bytes → Except DecodeError Value)
  /-- A value after its size, which takes so many bytes. -/
  | sized (width extra : Nat) (make : Bytes → Except DecodeError Value)
  | listOf (count : Nat)
  | mapOf (count : Nat)
  /-- A list or map whose count takes so many bytes. -/
  | countedList (width : Nat)
  | countedMap (width : Nat)
  | bad

def Head.ofByte (first : UInt8) : Head :=
  let n := first.toNat
  let unsigned (bytes : Bytes) : Except DecodeError Value := .ok (.whole (Bytes.ofBigEndian bytes))
  let signed (bytes : Bytes) : Except DecodeError Value :=
    .ok (.whole (Bytes.ofTwosComplement bytes))
  let blob (bytes : Bytes) : Except DecodeError Value := .ok (.bytes bytes)
  if n < 0x80 then .done (.whole n)
  else if n < 0x90 then .mapOf (n - 0x80)
  else if n < 0xA0 then .listOf (n - 0x90)
  else if n < 0xC0 then .scalar (n - 0xA0) toText
  else if 0xE0 ≤ n then .done (.whole ((n : Int) - 256))
  else match n with
    | 0xC0 => .done .null
    | 0xC2 => .done (.bool false)
    | 0xC3 => .done (.bool true)
    | 0xC4 => .sized 1 0 blob
    | 0xC5 => .sized 2 0 blob
    | 0xC6 => .sized 4 0 blob
    | 0xC7 => .sized 1 1 toCustom
    | 0xC8 => .sized 2 1 toCustom
    | 0xC9 => .sized 4 1 toCustom
    | 0xCA => .scalar 4 fun bytes =>
      .ok (.real (Float32.ofBits (UInt32.ofNat (Bytes.ofBigEndian bytes))).toFloat)
    | 0xCB => .scalar 8 fun bytes =>
      .ok (.real (Float.ofBits (UInt64.ofNat (Bytes.ofBigEndian bytes))))
    | 0xCC => .scalar 1 unsigned
    | 0xCD => .scalar 2 unsigned
    | 0xCE => .scalar 4 unsigned
    | 0xCF => .scalar 8 unsigned
    | 0xD0 => .scalar 1 signed
    | 0xD1 => .scalar 2 signed
    | 0xD2 => .scalar 4 signed
    | 0xD3 => .scalar 8 signed
    | 0xD4 => .scalar 2 toCustom
    | 0xD5 => .scalar 3 toCustom
    | 0xD6 => .scalar 5 toCustom
    | 0xD7 => .scalar 9 toCustom
    | 0xD8 => .scalar 17 toCustom
    | 0xD9 => .sized 1 0 toText
    | 0xDA => .sized 2 0 toText
    | 0xDB => .sized 4 0 toText
    | 0xDC => .countedList 2
    | 0xDD => .countedList 4
    | 0xDE => .countedMap 2
    | 0xDF => .countedMap 4
    | _ => .bad

/-- Whether a container with so many parts may be opened, where `total` bytes are there in all. -/
def mayOpen (opened count most : Nat) : Except DecodeError Unit :=
  if openLimit ≤ opened then .error .tooDeep
  else if most < count then .error .tooMany
  else .ok ()

mutual

/-- The value at the head of the bytes, inside so many open containers. -/
def readValue (total opened : Nat) (bytes : Bytes) :
    Except DecodeError (Part Value bytes.length) :=
  match bytes with
  | [] => .error .incomplete
  | first :: tail =>
    let closed (run : Run Value tail.length) : Part Value (first :: tail).length :=
      ⟨run.value, run.rest, by have := run.noLonger; simp; omega⟩
    match Head.ofByte first with
    | .bad => .error .badFormat
    | .done value => .ok (closed ⟨value, tail, Nat.le_refl _⟩)
    | .scalar size make => (fixed size make tail).map closed
    | .sized width extra make => (counted width extra make tail).map closed
    | .listOf count => (readList total opened count tail).map closed
    | .mapOf count => (readMap total opened count tail).map closed
    | .countedList width =>
      match take width tail with
      | .error e => .error e
      | .ok size => (readList total opened (Bytes.ofBigEndian size.value) size.rest).map fun run =>
          closed ⟨run.value, run.rest, Nat.le_trans run.noLonger size.noLonger⟩
    | .countedMap width =>
      match take width tail with
      | .error e => .error e
      | .ok size => (readMap total opened (Bytes.ofBigEndian size.value) size.rest).map fun run =>
          closed ⟨run.value, run.rest, Nat.le_trans run.noLonger size.noLonger⟩
termination_by 3 * bytes.length
decreasing_by
  · simp only [List.length_cons]; omega
  · simp only [List.length_cons]; omega
  · have := size.noLonger; simp only [List.length_cons]; omega
  · have := size.noLonger; simp only [List.length_cons]; omega

def readList (total opened count : Nat) (bytes : Bytes) :
    Except DecodeError (Run Value bytes.length) :=
  match mayOpen opened count total with
  | .error e => .error e
  | .ok () => (readItems total (opened + 1) count bytes).map fun run =>
      ⟨.list run.value, run.rest, run.noLonger⟩
termination_by 3 * bytes.length + 2

def readMap (total opened count : Nat) (bytes : Bytes) :
    Except DecodeError (Run Value bytes.length) :=
  match mayOpen opened count (total / 2) with
  | .error e => .error e
  | .ok () => (readEntries total (opened + 1) count bytes).map fun run =>
      ⟨.map (distinctEntries run.value), run.rest, run.noLonger⟩
termination_by 3 * bytes.length + 2

def readItems (total opened count : Nat) (bytes : Bytes) :
    Except DecodeError (Run (List Value) bytes.length) :=
  match count with
  | 0 => .ok ⟨[], bytes, Nat.le_refl _⟩
  | count + 1 =>
    match readValue total opened bytes with
    | .error e => .error e
    | .ok item => (readItems total opened count item.rest).map fun run =>
        ⟨item.value :: run.value, run.rest, by
          have := run.noLonger; have := item.shorter; omega⟩
termination_by 3 * bytes.length + 1
decreasing_by
  · omega
  · have := item.shorter; omega

/-- So many entries. A key is checked once its value was read. -/
def readEntries (total opened count : Nat) (bytes : Bytes) :
    Except DecodeError (Run (List (Key × Value)) bytes.length) :=
  match count with
  | 0 => .ok ⟨[], bytes, Nat.le_refl _⟩
  | count + 1 =>
    match readValue total opened bytes with
    | .error e => .error e
    | .ok key =>
      match readValue total opened key.rest with
      | .error e => .error e
      | .ok value =>
        match toKey key.value with
        | .error e => .error e
        | .ok name => (readEntries total opened count value.rest).map fun run =>
            ⟨(name, value.value) :: run.value, run.rest, by
              have := run.noLonger; have := key.shorter; have := value.shorter; omega⟩
termination_by 3 * bytes.length + 1
decreasing_by
  · omega
  · have := key.shorter; omega
  · have := key.shorter; have := value.shorter; omega

end

def decode (bytes : Bytes) : Except DecodeError Value :=
  match readValue bytes.length 0 bytes with
  | .error e => .error e
  | .ok part => if part.rest.isEmpty then .ok part.value else .error .extraBytes

end Fitout.MessagePack
