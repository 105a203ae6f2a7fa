import Fitout.Proofs.MessagePack.Packing

/-!
# Unpacking what was packed

A value that packs is unpacked to the same value, but for whole numbers beyond 64 bits: they have no
packed form and are packed as the text of their digits. The induction is on the value. It carries
the room for open containers down, and the count of all bytes, which bounds each container's.
-/

namespace Fitout

open MessagePack

mutual

/-- A value as it comes back after packing: a whole number beyond 64 bits has become the text of its
digits. -/
def Json.packed : Json → Json
  | .number (.whole n) => if fits n then .whole n else .text (toString n)
  | .list items => .list (packedItems items)
  | .object members => .object (packedMembers members)
  | value => value

def Json.packedItems : List Json → List Json
  | [] => []
  | item :: rest => item.packed :: packedItems rest

def Json.packedMembers : List (String × Json) → List (String × Json)
  | [] => []
  | (name, value) :: rest => (name, value.packed) :: packedMembers rest

end

/-- Whether a whole number has a form of its own when it is packed. -/
def Json.WholeFits : Json → Prop
  | .number (.whole n) => fits n = true
  | _ => True

section Packed

open Json

mutual

theorem Json.packed_eq_self : ∀ {j : Json}, j.Everywhere WholeFits → j.packed = j
  | .null, _ | .bool _, _ | .number (.real _), _ | .text _, _ => rfl
  | .number (.whole _), small => if_pos small
  | .list _, small => congrArg list (packedItems_eq_self small.2)
  | .object _, small => congrArg object (packedMembers_eq_self small.2)

theorem Json.packedItems_eq_self : ∀ {items : List Json}, ItemsEverywhere WholeFits items →
    packedItems items = items
  | [], _ => rfl
  | item :: rest, small => by
    rw [packedItems, packed_eq_self small.1, packedItems_eq_self small.2]

theorem Json.packedMembers_eq_self : ∀ {members : List (String × Json)},
    MembersEverywhere WholeFits members → packedMembers members = members
  | [], _ => rfl
  | (name, value) :: rest, small => by
    rw [packedMembers, packed_eq_self small.1, packedMembers_eq_self small.2]

end

end Packed

namespace MessagePack

mutual

/-- The value that a packed one is read as. -/
def Value.ofJson : Json → Value
  | .null => .null
  | .bool b => .bool b
  | .number (.whole n) => if fits n then .whole n else .text (toString n)
  | .number (.real x) => .real x
  | .text s => .text s
  | .list items => .list (ofItems items)
  | .object members => .map (ofMembers members)

def Value.ofItems : List Json → List Value
  | [] => []
  | item :: rest => ofJson item :: ofItems rest

def Value.ofMembers : List (String × Json) → List (Key × Value)
  | [] => []
  | (name, value) :: rest => (.text name, ofJson value) :: ofMembers rest

end

theorem of_ofJson_eq_null {j : Json} (same : Value.ofJson j = .null) : j = .null := by
  cases j with
  | null => rfl
  | number n =>
    cases n with
    | whole n =>
      rw [Value.ofJson] at same
      split at same <;> cases same
    | real x => cases same
  | _ => cases same

mutual

theorem toJson_ofJson : ∀ j : Json, (Value.ofJson j).toJson = j.packed
  | .null | .bool _ | .number (.real _) | .text _ => rfl
  | .number (.whole n) => by
    rw [Value.ofJson, Json.packed]
    split <;> rfl
  | .list items => by rw [Value.ofJson, Value.toJson, Json.packed, itemsToJson_ofItems]
  | .object members => by rw [Value.ofJson, Value.toJson, Json.packed, entriesToJson_ofMembers]

theorem itemsToJson_ofItems : ∀ items : List Json,
    Value.itemsToJson (Value.ofItems items) = Json.packedItems items
  | [] => rfl
  | item :: rest => by
    rw [Value.ofItems, Value.itemsToJson, Json.packedItems, toJson_ofJson, itemsToJson_ofItems]

theorem entriesToJson_ofMembers : ∀ members : List (String × Json),
    Value.entriesToJson (Value.ofMembers members) = Json.packedMembers members
  | [] => rfl
  | (name, value) :: rest => by
    rw [Value.ofMembers, Value.entriesToJson, Json.packedMembers, toJson_ofJson,
      entriesToJson_ofMembers]

end

/-- Like `Spells`, for the items of a list. -/
def SpellsItems (total opened : Nat) (bytes : Bytes) (vs : List Value) : Prop :=
  ∀ rest, ∃ run, readItems total opened vs.length (bytes ++ rest) = .ok run ∧
    run.value = vs ∧ run.rest = rest

def SpellsEntries (total opened : Nat) (bytes : Bytes) (entries : List (Key × Value)) : Prop :=
  ∀ rest, ∃ run, readEntries total opened entries.length (bytes ++ rest) = .ok run ∧
    run.value = entries ∧ run.rest = rest

section Containers

variable {total opened : Nat}

theorem spellsItems_nil : SpellsItems total opened [] [] := by
  intro rest
  refine ⟨⟨[], rest, Nat.le_refl _⟩, ?_, rfl, rfl⟩
  rw [List.length_nil, readItems]
  rfl

theorem spellsItems_cons {head tail : Bytes} {v : Value} {vs : List Value}
    (first : Spells total opened head v) (others : SpellsItems total opened tail vs) :
    SpellsItems total opened (head ++ tail) (v :: vs) := by
  intro rest
  rw [List.append_assoc]
  obtain ⟨item, read, value, after⟩ := first (tail ++ rest)
  obtain ⟨run, readRest, values, rest_eq⟩ :
      ∃ run, readItems total opened vs.length item.rest = .ok run ∧
        run.value = vs ∧ run.rest = rest := by
    rw [after]
    exact others rest
  rw [List.length_cons, readItems]
  simp only [read, readRest, Except.map]
  exact ⟨_, rfl, by rw [value, values], rest_eq⟩

theorem spellsEntries_nil : SpellsEntries total opened [] [] := by
  intro rest
  refine ⟨⟨[], rest, Nat.le_refl _⟩, ?_, rfl, rfl⟩
  rw [List.length_nil, readEntries]
  rfl

theorem spellsEntries_cons {head middle tail : Bytes} {name : String} {v : Value}
    {entries : List (Key × Value)} (key : Spells total opened head (.text name))
    (first : Spells total opened middle v) (others : SpellsEntries total opened tail entries) :
    SpellsEntries total opened (head ++ middle ++ tail) ((.text name, v) :: entries) := by
  intro rest
  rw [List.append_assoc, List.append_assoc]
  obtain ⟨key, readKey, name_eq, afterKey⟩ := key (middle ++ (tail ++ rest))
  obtain ⟨item, read, value, after⟩ :
      ∃ item, readValue total opened key.rest = .ok item ∧
        item.value = v ∧ item.rest = tail ++ rest := by
    rw [afterKey]
    exact first (tail ++ rest)
  obtain ⟨run, readRest, values, rest_eq⟩ :
      ∃ run, readEntries total opened entries.length item.rest = .ok run ∧
        run.value = entries ∧ run.rest = rest := by
    rw [after]
    exact others rest
  rw [List.length_cons, readEntries]
  simp only [readKey, read, name_eq, toKey, readRest, Except.map]
  exact ⟨_, rfl, by rw [value, values], rest_eq⟩

theorem mayOpen_eq_ok {count most : Nat} (room : opened < openLimit) (few : count ≤ most) :
    mayOpen opened count most = .ok () := by
  rw [mayOpen, if_neg (Nat.not_le.mpr room), if_neg (Nat.not_lt.mpr few)]

/-- A count in so many bytes and what a container of this count is read as. -/
theorem counted_inside
    {inside : Nat → (bytes : Bytes) → Except DecodeError (Run Value bytes.length)}
    {width count : Nat} {bytes rest : Bytes} {v : Value} (fits : count < 256 ^ width)
    (reads : ∃ run, inside count (bytes ++ rest) = .ok run ∧ run.value = v ∧ run.rest = rest) :
    ∃ size, take width (Bytes.bigEndian width count ++ (bytes ++ rest)) = .ok size ∧
      ∃ run, inside (Bytes.ofBigEndian size.value) size.rest = .ok run ∧
        run.value = v ∧ run.rest = rest := by
  obtain ⟨size, taken, value, after⟩ :=
    take_append (bytes ++ rest) (Bytes.length_bigEndian width count)
  refine ⟨size, taken, ?_⟩
  rw [after, value, Bytes.ofBigEndian_bigEndian fits]
  exact reads

section List

variable {bytes : Bytes} {vs : List Value} (items : SpellsItems total (opened + 1) bytes vs)
  (room : opened < openLimit) (few : vs.length ≤ total)

include items room few

theorem readList_append (rest : Bytes) :
    ∃ run, readList total opened vs.length (bytes ++ rest) = .ok run ∧
      run.value = .list vs ∧ run.rest = rest := by
  obtain ⟨run, read, values, rest_eq⟩ := items rest
  rw [readList, mayOpen_eq_ok room few]
  simp only [read, Except.map]
  exact ⟨_, rfl, by rw [values], rest_eq⟩

theorem spells_countedList {first : UInt8} {width : Nat}
    (head : Head.ofByte first = .countedList width) (fits : vs.length < 256 ^ width) :
    Spells total opened (first :: Bytes.bigEndian width vs.length ++ bytes) (.list vs) := by
  intro rest
  obtain ⟨size, taken, run, read, value, rest_eq⟩ :=
    counted_inside fits (readList_append items room few rest)
  rw [List.append_assoc, List.cons_append, readValue, head]
  simp only [taken, read, Except.map]
  exact ⟨_, rfl, value, rest_eq⟩

theorem spells_list (size : vs.length < 2 ^ 32) :
    Spells total opened (listHead vs.length ++ bytes) (.list vs) := by
  unfold listHead
  split
  · rename_i short
    intro rest
    obtain ⟨run, read, value, rest_eq⟩ := readList_append items room few rest
    rw [List.append_assoc, List.singleton_append, readValue, head_listOf short]
    simp only [read, Except.map]
    exact ⟨_, rfl, value, rest_eq⟩
  · split
    · rename_i short
      exact spells_countedList items room few rfl short
    · exact spells_countedList items room few rfl size

end List

section Map

variable {bytes : Bytes} {entries : List (Key × Value)}
  (inside : SpellsEntries total (opened + 1) bytes entries) (room : opened < openLimit)
  (few : entries.length ≤ total / 2)

include inside room few

theorem readMap_append (rest : Bytes) :
    ∃ run, readMap total opened entries.length (bytes ++ rest) = .ok run ∧
      run.value = .map (distinctEntries entries) ∧ run.rest = rest := by
  obtain ⟨run, read, values, rest_eq⟩ := inside rest
  rw [readMap, mayOpen_eq_ok room few]
  simp only [read, Except.map]
  exact ⟨_, rfl, by rw [values], rest_eq⟩

theorem spells_countedMap {first : UInt8} {width : Nat}
    (head : Head.ofByte first = .countedMap width) (fits : entries.length < 256 ^ width) :
    Spells total opened (first :: Bytes.bigEndian width entries.length ++ bytes)
      (.map (distinctEntries entries)) := by
  intro rest
  obtain ⟨size, taken, run, read, value, rest_eq⟩ :=
    counted_inside fits (readMap_append inside room few rest)
  rw [List.append_assoc, List.cons_append, readValue, head]
  simp only [taken, read, Except.map]
  exact ⟨_, rfl, value, rest_eq⟩

theorem spells_map (size : entries.length < 2 ^ 32) :
    Spells total opened (mapHead entries.length ++ bytes) (.map (distinctEntries entries)) := by
  unfold mapHead
  split
  · rename_i short
    intro rest
    obtain ⟨run, read, value, rest_eq⟩ := readMap_append inside room few rest
    rw [List.append_assoc, List.singleton_append, readValue, head_mapOf short]
    simp only [read, Except.map]
    exact ⟨_, rfl, value, rest_eq⟩
  · split
    · rename_i short
      exact spells_countedMap inside room few rfl short
    · exact spells_countedMap inside room few rfl size

end Map

end Containers

theorem setEntry_of_not_mem {key : Key} {value : Value} {known : List (Key × Value)}
    (fresh : key ∉ known.map (·.1)) : setEntry key value known = known ++ [(key, value)] := by
  induction known with
  | nil => rfl
  | cons entry rest inductionHypothesis =>
    rw [List.map_cons, List.mem_cons, not_or] at fresh
    have other : (entry.1 == key) = false := beq_false_of_ne (Ne.symm fresh.1)
    rw [setEntry, other]
    simp only [Bool.false_eq_true, if_false, inductionHypothesis fresh.2, List.cons_append]

theorem foldl_setEntry {known entries : List (Key × Value)}
    (distinct : ((known ++ entries).map (·.1)).Nodup) :
    entries.foldl (fun known (key, value) => setEntry key value known) known =
      known ++ entries := by
  induction entries generalizing known with
  | nil => exact (List.append_nil known).symm
  | cons entry rest inductionHypothesis =>
    obtain ⟨key, value⟩ := entry
    have fresh : key ∉ known.map (·.1) := by
      rw [List.map_append, List.map_cons] at distinct
      intro member
      exact (List.nodup_append.mp distinct).2.2 _ member _ List.mem_cons_self rfl
    rw [List.append_cons] at distinct ⊢
    simp only [List.foldl_cons, setEntry_of_not_mem fresh]
    exact inductionHypothesis distinct

theorem distinctEntries_eq_self {entries : List (Key × Value)}
    (distinct : (entries.map (·.1)).Nodup) : distinctEntries entries = entries :=
  foldl_setEntry distinct

theorem length_ofItems (items : List Json) : (Value.ofItems items).length = items.length := by
  induction items with
  | nil => rfl
  | cons item rest inductionHypothesis =>
    rw [Value.ofItems, List.length_cons, List.length_cons, inductionHypothesis]

theorem keys_ofMembers (members : List (String × Json)) :
    (Value.ofMembers members).map (·.1) = (members.map (·.1)).map .text := by
  induction members with
  | nil => rfl
  | cons member rest inductionHypothesis =>
    obtain ⟨name, value⟩ := member
    rw [Value.ofMembers, List.map_cons, List.map_cons, List.map_cons, inductionHypothesis]

theorem length_ofMembers (members : List (String × Json)) :
    (Value.ofMembers members).length = members.length := by
  rw [← List.length_map (·.1), keys_ofMembers, List.length_map, List.length_map]

theorem distinctEntries_ofMembers {members : List (String × Json)}
    (distinct : (members.map (·.1)).Nodup) :
    distinctEntries (Value.ofMembers members) = Value.ofMembers members := by
  apply distinctEntries_eq_self
  rw [keys_ofMembers]
  exact distinct.map fun _ _ same => Key.text.inj same

section Sizes

variable {most : Option Nat} {inside : Nat}

/-- No value is spelt by nothing. -/
theorem length_pos_of_spells {total opened : Nat} {bytes : Bytes} {v : Value}
    (spells : Spells total opened bytes v) : 0 < bytes.length := by
  obtain ⟨part, -, -, rest⟩ := spells []
  have shorter := part.shorter
  rw [rest, List.append_nil] at shorter
  exact shorter

theorem length_pos_of_packText {s : String} {bytes : Bytes} (packed : packText s = .ok bytes) :
    0 < bytes.length :=
  have spells : Spells 0 0 bytes (.text s) := spells_packText packed
  length_pos_of_spells spells

theorem length_pos_listHead (n : Nat) : 0 < (listHead n).length := by
  unfold listHead
  split
  · exact Nat.zero_lt_one
  · split <;> exact Nat.succ_pos _

theorem length_pos_mapHead (n : Nat) : 0 < (mapHead n).length := by
  unfold mapHead
  split
  · exact Nat.zero_lt_one
  · split <;> exact Nat.succ_pos _

theorem length_pos_of_encodeInside {j : Json} {bytes : Bytes}
    (packed : encodeInside most inside j = .ok bytes) : 0 < bytes.length := by
  cases j with
  | null | bool _ =>
    rw [encodeInside] at packed
    obtain rfl := Except.ok.inj packed
    exact Nat.zero_lt_one
  | number n =>
    cases n with
    | whole n =>
      rw [encodeInside] at packed
      split at packed
      · rename_i small
        obtain rfl := Except.ok.inj packed
        have spells : Spells 0 0 (packSmall n) (.whole n) := spells_packSmall small
        exact length_pos_of_spells spells
      · exact length_pos_of_packText packed
    | real x =>
      rw [encodeInside] at packed
      obtain rfl := Except.ok.inj packed
      exact Nat.succ_pos _
  | text s =>
    rw [encodeInside] at packed
    exact length_pos_of_packText packed
  | list items =>
    obtain ⟨rest, -, -, rfl⟩ := encodeInside_list_eq_ok_iff.mp packed
    rw [List.length_append]
    exact Nat.add_pos_left (length_pos_listHead _) _
  | object members =>
    obtain ⟨rest, -, -, rfl⟩ := encodeInside_object_eq_ok_iff.mp packed
    rw [List.length_append]
    exact Nat.add_pos_left (length_pos_mapHead _) _

theorem length_le_of_packItems {items : List Json} {bytes : Bytes}
    (packed : packItems most inside items = .ok bytes) : items.length ≤ bytes.length := by
  induction items generalizing bytes with
  | nil => exact Nat.zero_le _
  | cons item rest inductionHypothesis =>
    obtain ⟨head, tail, -, first, others, rfl⟩ := packItems_cons_eq_ok_iff.mp packed
    have here := length_pos_of_encodeInside first
    have later := inductionHypothesis others
    rw [List.length_cons, List.length_append]
    omega

theorem length_le_of_packMembers {members : List (String × Json)} {bytes : Bytes}
    (packed : packMembers most inside members = .ok bytes) : 2 * members.length ≤ bytes.length := by
  induction members generalizing bytes with
  | nil => exact Nat.zero_le _
  | cons member rest inductionHypothesis =>
    obtain ⟨head, middle, tail, -, named, first, others, rfl⟩ :=
      packMembers_cons_eq_ok_iff.mp packed
    have name := length_pos_of_packText named
    have value := length_pos_of_encodeInside first
    have later := inductionHypothesis others
    rw [List.length_cons, List.length_append, List.length_append]
    omega

end Sizes

mutual

/-- A packed value is read as it was, whatever follows: each object has each name once, and there
are bytes enough in all and containers enough left to open. -/
theorem spells_encodeInside {most : Option Nat} {lying total opened : Nat} :
    ∀ {j : Json} {bytes : Bytes}, encodeInside most lying j = .ok bytes →
      j.Everywhere Json.NamesDiffer → opened + j.depth ≤ openLimit → bytes.length ≤ total →
      Spells total opened bytes (.ofJson j)
  | .null, bytes, packed, _, _, _ => by
    obtain rfl := Except.ok.inj packed
    exact spells_of_done rfl
  | .bool b, bytes, packed, _, _, _ => by
    obtain rfl := Except.ok.inj packed
    cases b <;> exact spells_of_done rfl
  | .number (.whole n), bytes, packed, _, _, _ => by
    rw [encodeInside] at packed
    rw [Value.ofJson]
    split at packed
    · rename_i small
      obtain rfl := Except.ok.inj packed
      rw [if_pos small]
      exact spells_packSmall small
    · rename_i large
      rw [if_neg large]
      exact spells_packText packed
  | .number (.real x), bytes, packed, _, _, _ => by
    obtain rfl := Except.ok.inj packed
    exact spells_packReal x
  | .text s, bytes, packed, _, _, _ => by
    rw [encodeInside] at packed
    exact spells_packText packed
  | .list items, bytes, packed, distinct, shallow, enough => by
    obtain ⟨inside, packedItems, short, rfl⟩ := encodeInside_list_eq_ok_iff.mp packed
    rw [List.length_append] at enough
    rw [Json.Everywhere] at distinct
    rw [Json.depth] at shallow
    have few := length_le_of_packItems packedItems
    have spells : SpellsItems total (opened + 1) inside (Value.ofItems items) :=
      spellsItems_packItems packedItems distinct.2 (by omega) (by omega)
    rw [Value.ofJson, ← length_ofItems items]
    rw [← length_ofItems items] at few short
    exact spells_list spells (by omega) (by omega) short
  | .object members, bytes, packed, distinct, shallow, enough => by
    obtain ⟨inside, packedMembers, short, rfl⟩ := encodeInside_object_eq_ok_iff.mp packed
    rw [List.length_append] at enough
    rw [Json.Everywhere] at distinct
    rw [Json.depth] at shallow
    have few := length_le_of_packMembers packedMembers
    have spells : SpellsEntries total (opened + 1) inside (Value.ofMembers members) :=
      spellsEntries_packMembers packedMembers distinct.2 (by omega) (by omega)
    rw [Value.ofJson, ← distinctEntries_ofMembers distinct.1, ← length_ofMembers members]
    rw [← length_ofMembers members] at few short
    exact spells_map spells (by omega) (by omega) short

theorem spellsItems_packItems {most : Option Nat} {lying total opened : Nat} :
    ∀ {items : List Json} {bytes : Bytes}, packItems most lying items = .ok bytes →
      Json.ItemsEverywhere Json.NamesDiffer items →
      opened + Json.depthOfItems items ≤ openLimit → bytes.length ≤ total →
      SpellsItems total opened bytes (Value.ofItems items)
  | [], bytes, packed, _, _, _ => by
    obtain rfl := Except.ok.inj packed
    exact spellsItems_nil
  | item :: rest, bytes, packed, distinct, shallow, enough => by
    obtain ⟨head, tail, -, first, others, rfl⟩ := packItems_cons_eq_ok_iff.mp packed
    rw [List.length_append] at enough
    rw [Json.ItemsEverywhere] at distinct
    rw [Json.depthOfItems] at shallow
    exact spellsItems_cons (spells_encodeInside first distinct.1 (by omega) (by omega))
      (spellsItems_packItems others distinct.2 (by omega) (by omega))

theorem spellsEntries_packMembers {most : Option Nat} {lying total opened : Nat} :
    ∀ {members : List (String × Json)} {bytes : Bytes},
      packMembers most lying members = .ok bytes →
      Json.MembersEverywhere Json.NamesDiffer members →
      opened + Json.depthOfMembers members ≤ openLimit → bytes.length ≤ total →
      SpellsEntries total opened bytes (Value.ofMembers members)
  | [], bytes, packed, _, _, _ => by
    obtain rfl := Except.ok.inj packed
    exact spellsEntries_nil
  | (name, value) :: rest, bytes, packed, distinct, shallow, enough => by
    obtain ⟨head, middle, tail, -, named, first, others, rfl⟩ :=
      packMembers_cons_eq_ok_iff.mp packed
    rw [List.length_append, List.length_append] at enough
    rw [Json.MembersEverywhere] at distinct
    rw [Json.depthOfMembers] at shallow
    exact spellsEntries_cons (spells_packText named)
      (spells_encodeInside first distinct.1 (by omega) (by omega))
      (spellsEntries_packMembers others distinct.2 (by omega) (by omega))

end

/-- What was packed can be unpacked. -/
theorem decode_encode {most : Option Nat} {j : Json} {bytes : Bytes}
    (packed : encode most j = .ok bytes) (distinct : j.Everywhere Json.NamesDiffer)
    (shallow : j.depth ≤ openLimit) : decode bytes = .ok (.ofJson j) := by
  have spells : Spells bytes.length 0 bytes (.ofJson j) :=
    spells_encodeInside packed distinct (by omega) (Nat.le_refl _)
  have alone := spells []
  rw [List.append_nil] at alone
  obtain ⟨part, read, value, rest⟩ := alone
  simp only [decode, read, rest, List.isEmpty_nil, if_true, value]

end MessagePack

end Fitout
