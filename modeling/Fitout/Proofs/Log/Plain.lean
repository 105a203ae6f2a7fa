import Fitout.Json.Writer
import Fitout.Log.Value
import Fitout.Proofs.Json.Members

/-!
# Plain values

A value is made plain by turning its collections into lists, its keys into texts and each value of a
kind that JSON lacks into its text. The result is what the log writes for the value. It is plain at
every depth, so that making it plain once more changes nothing and that it has a JSON text in which
nothing had to be asked about values of other kinds.
-/

namespace Fitout.Log.Value

/-- A mapping whose keys are texts. -/
def named (members : List (String × Value)) : Value :=
  mapping (members.map fun member => (.text member.1, member.2))

mutual

/-- The plain form of a value. Of entries whose keys have the same text the last one counts, in the
place of the first. -/
def plain : Value → Value
  | null => null
  | bool b => bool b
  | number n => number n
  | text s => text s
  | list items | tuple items | set items => list (plainItems items)
  | mapping entries => named (Json.distinctMembers (plainEntries entries))
  | decimal d => text d.text
  | foreign shown => text shown

def plainItems : List Value → List Value
  | [] => []
  | item :: rest => item.plain :: plainItems rest

def plainEntries : List (Key × Value) → List (String × Value)
  | [] => []
  | (key, value) :: rest => (key.shown, value.plain) :: plainEntries rest

end

/-- Texts, numbers, truth values and nothing, and lists and mappings of these in which each key is a
text that stands once. -/
inductive IsPlain : Value → Prop
  | null : IsPlain .null
  | bool (b : Bool) : IsPlain (.bool b)
  | number (n : Number) : IsPlain (.number n)
  | text (s : String) : IsPlain (.text s)
  | list {items : List Value} (parts : ∀ item ∈ items, item.IsPlain) : IsPlain (.list items)
  | named {members : List (String × Value)} (distinct : (members.map (·.1)).Nodup)
      (parts : ∀ member ∈ members, member.2.IsPlain) : IsPlain (.named members)

mutual

/-- The JSON text of a value, with a gap after each comma and colon. What it is to say for a value
of a kind that JSON lacks, and for a key that is no text, has to be asked for. -/
def write? (gap : String) (fallback : Value → Option String) (keyText? : Key → Option String) :
    Value → Option String
  | null => some "null"
  | bool b => some (if b then "true" else "false")
  | number n => some (Json.encodeNumber n)
  | text s => some (Json.encodeString s)
  | list items | tuple items =>
    (writeItems? gap fallback keyText? items).map fun texts =>
      "[" ++ ("," ++ gap).intercalate texts ++ "]"
  | mapping entries =>
    (writeEntries? gap fallback keyText? entries).map fun texts =>
      "\x7b" ++ ("," ++ gap).intercalate texts ++ "\x7d"
  | set items => (fallback (set items)).map Json.encodeString
  | decimal d => (fallback (decimal d)).map Json.encodeString
  | foreign shown => (fallback (foreign shown)).map Json.encodeString

def writeItems? (gap : String) (fallback : Value → Option String)
    (keyText? : Key → Option String) : List Value → Option (List String)
  | [] => some []
  | item :: rest => do
    let first ← item.write? gap fallback keyText?
    return first :: (← writeItems? gap fallback keyText? rest)

def writeEntries? (gap : String) (fallback : Value → Option String)
    (keyText? : Key → Option String) : List (Key × Value) → Option (List String)
  | [] => some []
  | (key, value) :: rest => do
    let name ← match key with
      | .text s => some s
      | key => keyText? key
    let first ← value.write? gap fallback keyText?
    return (Json.encodeString name ++ (":" ++ gap) ++ first)
      :: (← writeEntries? gap fallback keyText? rest)

end

/-- A value has a JSON text that is the same whatever would be said of other kinds. -/
def IsSelfContained (v : Value) : Prop :=
  ∀ gap, ∃ text, ∀ fallback keyText?, v.write? gap fallback keyText? = some text

section Plain

theorem ofMembers_eq_map (members : List (String × Json)) :
    ofMembers members = members.map fun member => (.text member.1, ofJson member.2) := by
  induction members with
  | nil => rfl
  | cons member rest inductionHypothesis =>
    obtain ⟨name, value⟩ := member
    rw [ofMembers, inductionHypothesis, List.map_cons]

theorem ofJson_object (members : List (String × Json)) :
    ofJson (.object members) = named (members.map fun member => (member.1, ofJson member.2)) := by
  rw [ofJson, ofMembers_eq_map, named, List.map_map]
  rfl

mutual

theorem plain_eq_ofJson : (v : Value) → v.plain = ofJson v.toJson
  | null | bool _ | number _ | text _ | decimal _ | foreign _ => rfl
  | list items | tuple items | set items => by
    rw [plain, toJson, ofJson, plainItems_eq_ofItems items]
  | mapping entries => by
    rw [plain, toJson, ofJson_object, plainEntries_eq_map entries, Json.distinctMembers_map]

theorem plainItems_eq_ofItems : (items : List Value) →
    plainItems items = ofItems (itemsToJson items)
  | [] => rfl
  | item :: rest => by
    rw [plainItems, itemsToJson, ofItems, plain_eq_ofJson item, plainItems_eq_ofItems rest]

theorem plainEntries_eq_map : (entries : List (Key × Value)) → plainEntries entries =
    (entriesToJson entries).map fun member => (member.1, ofJson member.2)
  | [] => rfl
  | (key, value) :: rest => by
    rw [plainEntries, entriesToJson, List.map_cons, plain_eq_ofJson value,
      plainEntries_eq_map rest]

end

mutual

theorem isPlain_plain : (v : Value) → v.plain.IsPlain
  | null => .null
  | bool b => .bool b
  | number n => .number n
  | text s => .text s
  | list items | tuple items | set items => .list (isPlain_of_mem_plainItems items)
  | mapping entries => .named Json.nodup_keys_distinctMembers fun member held =>
    isPlain_of_mem_plainEntries entries member (Json.of_mem_distinctMembers held)
  | decimal d => .text d.text
  | foreign shown => .text shown

theorem isPlain_of_mem_plainItems : (items : List Value) → ∀ item ∈ plainItems items, item.IsPlain
  | [] => List.forall_mem_nil _
  | item :: rest => List.forall_mem_cons.mpr ⟨isPlain_plain item, isPlain_of_mem_plainItems rest⟩

theorem isPlain_of_mem_plainEntries : (entries : List (Key × Value)) →
    ∀ member ∈ plainEntries entries, member.2.IsPlain
  | [] => List.forall_mem_nil _
  | (_, value) :: rest =>
    List.forall_mem_cons.mpr ⟨isPlain_plain value, isPlain_of_mem_plainEntries rest⟩

end

theorem plainItems_eq_self {items : List Value} (each : ∀ item ∈ items, item.plain = item) :
    plainItems items = items := by
  induction items with
  | nil => rfl
  | cons item rest inductionHypothesis =>
    obtain ⟨first, others⟩ := List.forall_mem_cons.mp each
    rw [plainItems, first, inductionHypothesis others]

theorem plainEntries_eq_self {members : List (String × Value)}
    (each : ∀ member ∈ members, member.2.plain = member.2) :
    plainEntries (members.map fun member => (.text member.1, member.2)) = members := by
  induction members with
  | nil => rfl
  | cons member rest inductionHypothesis =>
    obtain ⟨first, others⟩ := List.forall_mem_cons.mp each
    rw [List.map_cons, plainEntries, first, inductionHypothesis others]
    rfl

theorem IsPlain.plain_eq {v : Value} (isPlain : v.IsPlain) : v.plain = v := by
  induction isPlain with
  | null | bool | number | text => rfl
  | list _ inductionHypothesis => rw [plain, plainItems_eq_self inductionHypothesis]
  | named distinct _ inductionHypothesis =>
    rw [Value.named, plain, plainEntries_eq_self inductionHypothesis,
      Json.distinctMembers_of_nodup distinct, Value.named]

end Plain

section Write

theorem exists_writeItems? (gap : String) {items : List Value}
    (each : ∀ item ∈ items, item.IsSelfContained) :
    ∃ texts, ∀ fallback keyText?, writeItems? gap fallback keyText? items = some texts := by
  induction items with
  | nil => exact ⟨[], fun _ _ => rfl⟩
  | cons item rest inductionHypothesis =>
    obtain ⟨first, others⟩ := List.forall_mem_cons.mp each
    obtain ⟨text, written⟩ := first gap
    obtain ⟨texts, writtenRest⟩ := inductionHypothesis others
    refine ⟨text :: texts, fun fallback keyText? => ?_⟩
    rw [writeItems?, written, writtenRest]
    rfl

theorem exists_writeEntries? (gap : String) {members : List (String × Value)}
    (each : ∀ member ∈ members, member.2.IsSelfContained) :
    ∃ texts, ∀ fallback keyText?, writeEntries? gap fallback keyText?
      (members.map fun member => (.text member.1, member.2)) = some texts := by
  induction members with
  | nil => exact ⟨[], fun _ _ => rfl⟩
  | cons member rest inductionHypothesis =>
    obtain ⟨first, others⟩ := List.forall_mem_cons.mp each
    obtain ⟨text, written⟩ := first gap
    obtain ⟨texts, writtenRest⟩ := inductionHypothesis others
    refine ⟨(Json.encodeString member.1 ++ (":" ++ gap) ++ text) :: texts,
      fun fallback keyText? => ?_⟩
    rw [List.map_cons, writeEntries?, written, writtenRest]
    rfl

theorem IsPlain.isSelfContained {v : Value} (isPlain : v.IsPlain) : v.IsSelfContained := by
  induction isPlain with
  | null | bool | number | text => exact fun _ => ⟨_, fun _ _ => rfl⟩
  | list _ inductionHypothesis =>
    intro gap
    obtain ⟨texts, written⟩ := exists_writeItems? gap inductionHypothesis
    refine ⟨"[" ++ ("," ++ gap).intercalate texts ++ "]", fun fallback keyText? => ?_⟩
    rw [write?, written, Option.map_some]
  | named _ _ inductionHypothesis =>
    intro gap
    obtain ⟨texts, written⟩ := exists_writeEntries? gap inductionHypothesis
    refine ⟨"\x7b" ++ ("," ++ gap).intercalate texts ++ "\x7d", fun fallback keyText? => ?_⟩
    rw [Value.named, write?, written, Option.map_some]

mutual

/-- Without gaps, the text is the compact one. -/
theorem write?_ofJson (fallback : Value → Option String) (keyText? : Key → Option String) :
    (value : Json) → (ofJson value).write? "" fallback keyText? = some value.compact
  | .null | .bool _ | .number _ | .text _ => rfl
  | .list items => by
    rw [ofJson, write?, writeItems?_ofItems fallback keyText? items]
    rfl
  | .object members => by
    rw [ofJson, write?, writeEntries?_ofMembers fallback keyText? members]
    rfl

theorem writeItems?_ofItems (fallback : Value → Option String) (keyText? : Key → Option String) :
    (items : List Json) →
      writeItems? "" fallback keyText? (ofItems items) = some (Json.compactItems items)
  | [] => rfl
  | item :: rest => by
    rw [ofItems, writeItems?, write?_ofJson fallback keyText? item,
      writeItems?_ofItems fallback keyText? rest]
    rfl

theorem writeEntries?_ofMembers (fallback : Value → Option String)
    (keyText? : Key → Option String) : (members : List (String × Json)) →
      writeEntries? "" fallback keyText? (ofMembers members) = some (Json.compactMembers members)
  | [] => rfl
  | (name, value) :: rest => by
    rw [ofMembers, writeEntries?, write?_ofJson fallback keyText? value,
      writeEntries?_ofMembers fallback keyText? rest]
    rfl

end

end Write

end Fitout.Log.Value
