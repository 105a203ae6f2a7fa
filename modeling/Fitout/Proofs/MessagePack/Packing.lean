import Fitout.Proofs.Json.Shape
import Fitout.Proofs.MessagePack.Head

/-!
# Which values pack

Packing a container packs its parts one after the other, and each of them lies in one container
more. A value packs exactly if all texts in it have bytes, no text and no container in it is too
long for a head, and no part of it lies in more containers than the packer takes. The induction is
on the value; for the parts of a container it carries the number of containers around that one.
-/

namespace Fitout

/-- Whether a text packs: it has bytes, and not too many of them. -/
def Text.IsPackable (s : String) : Prop :=
  isWellFormed s = true ∧ (Bytes.ofText s).length < 2 ^ 32

namespace Json

mutual

/-- In how many containers a part of a value lies at most, from the value on. -/
def nesting : Json → Nat
  | .list items => nestingOfItems items
  | .object members => nestingOfMembers members
  | _ => 0

def nestingOfItems : List Json → Nat
  | [] => 0
  | item :: rest => max (item.nesting + 1) (nestingOfItems rest)

def nestingOfMembers : List (String × Json) → Nat
  | [] => 0
  | (_, value) :: rest => max (value.nesting + 1) (nestingOfMembers rest)

end

/-- Whether nothing but its parts and the containers around it keeps a value from being packed. -/
def PacksWithParts : Json → Prop
  | .number (.whole n) => MessagePack.fits n = true ∨ Text.IsPackable (toString n)
  | .text s => Text.IsPackable s
  | .list items => items.length < 2 ^ 32
  | .object members => members.length < 2 ^ 32 ∧ ∀ member ∈ members, Text.IsPackable member.1
  | _ => True

/-- Whether a value packs, with a limit to the containers around its parts or none. -/
structure IsPackable (most : Option Nat) (j : Json) : Prop where
  parts : j.Everywhere PacksWithParts
  shallow : ∀ n ∈ most, j.nesting ≤ n

end Json

namespace MessagePack

variable {most : Option Nat} {inside : Nat} {bytes : Bytes}

section Parts

theorem mayLie_eq_ok_iff : mayLie most inside = .ok () ↔ ∀ n ∈ most, inside ≤ n := by
  cases most <;> simp [mayLie]

/-- A container packs if its parts do and a head can hold their number. -/
theorem counted_eq_ok_iff {head : Nat → Bytes} {n : Nat} {parts : Except EncodeError Bytes} :
    (do return head (← sized n) ++ (← parts)) = .ok bytes ↔
      ∃ rest, parts = .ok rest ∧ n < 2 ^ 32 ∧ bytes = head n ++ rest := by
  constructor
  · intro packed
    obtain ⟨m, size, packed⟩ := of_bind_eq_ok packed
    obtain ⟨rest, packedParts, done⟩ := of_bind_eq_ok packed
    obtain ⟨rfl, short⟩ := sized_eq_ok_iff.mp size
    exact ⟨rest, packedParts, short, (Except.ok.inj done).symm⟩
  · rintro ⟨rest, rfl, short, rfl⟩
    rw [sized_eq_ok_iff.mpr ⟨rfl, short⟩]
    rfl

theorem encodeInside_list_eq_ok_iff {items : List Json} :
    encodeInside most inside (.list items) = .ok bytes ↔
      ∃ rest, packItems most (inside + 1) items = .ok rest ∧ items.length < 2 ^ 32 ∧
        bytes = listHead items.length ++ rest := by
  rw [encodeInside]
  exact counted_eq_ok_iff

theorem encodeInside_object_eq_ok_iff {members : List (String × Json)} :
    encodeInside most inside (.object members) = .ok bytes ↔
      ∃ rest, packMembers most (inside + 1) members = .ok rest ∧ members.length < 2 ^ 32 ∧
        bytes = mapHead members.length ++ rest := by
  rw [encodeInside]
  exact counted_eq_ok_iff

theorem packItems_cons_eq_ok_iff {item : Json} {rest : List Json} :
    packItems most inside (item :: rest) = .ok bytes ↔
      ∃ head tail, (∀ n ∈ most, inside ≤ n) ∧ encodeInside most inside item = .ok head ∧
        packItems most inside rest = .ok tail ∧ bytes = head ++ tail := by
  rw [packItems]
  constructor
  · intro packed
    obtain ⟨_, room, packed⟩ := of_bind_eq_ok packed
    obtain ⟨head, first, packed⟩ := of_bind_eq_ok packed
    obtain ⟨tail, others, done⟩ := of_bind_eq_ok packed
    exact ⟨head, tail, mayLie_eq_ok_iff.mp room, first, others, (Except.ok.inj done).symm⟩
  · rintro ⟨head, tail, room, first, others, rfl⟩
    rw [mayLie_eq_ok_iff.mpr room, first, others]
    rfl

theorem packMembers_cons_eq_ok_iff {name : String} {value : Json}
    {rest : List (String × Json)} :
    packMembers most inside ((name, value) :: rest) = .ok bytes ↔
      ∃ head middle tail, (∀ n ∈ most, inside ≤ n) ∧ packText name = .ok head ∧
        encodeInside most inside value = .ok middle ∧ packMembers most inside rest = .ok tail ∧
        bytes = head ++ middle ++ tail := by
  rw [packMembers]
  constructor
  · intro packed
    obtain ⟨_, room, packed⟩ := of_bind_eq_ok packed
    obtain ⟨head, named, packed⟩ := of_bind_eq_ok packed
    obtain ⟨middle, first, packed⟩ := of_bind_eq_ok packed
    obtain ⟨tail, others, done⟩ := of_bind_eq_ok packed
    exact ⟨head, middle, tail, mayLie_eq_ok_iff.mp room, named, first, others,
      (Except.ok.inj done).symm⟩
  · rintro ⟨head, middle, tail, room, named, first, others, rfl⟩
    rw [mayLie_eq_ok_iff.mpr room, named, first, others]
    rfl

theorem exists_packText_iff {s : String} :
    (∃ bytes, packText s = .ok bytes) ↔ Text.IsPackable s := by
  rw [Text.IsPackable, ← Text.refusal?_utf8_eq_none_iff, packText]
  split
  · rename_i refused
    simp [refused]
  · rename_i taken
    rw [taken]
    constructor
    · rintro ⟨bytes, packed⟩
      obtain ⟨n, size, -⟩ := of_bind_eq_ok packed
      exact ⟨rfl, (sized_eq_ok_iff.mp size).2⟩
    · rintro ⟨-, short⟩
      dsimp only
      rw [sized_eq_ok_iff.mpr ⟨rfl, short⟩]
      exact ⟨_, rfl⟩

end Parts

open Json

/-- A part lies in one container more, and the others lie where they do. -/
theorem forall_mem_max_le_iff {part others : Nat} :
    (∀ n ∈ most, inside + max (part + 1) others ≤ n) ↔
      (∀ n ∈ most, inside + 1 + part ≤ n) ∧ ∀ n ∈ most, inside + others ≤ n := by
  rw [← forall₂_and]
  refine forall₂_congr fun n _ => ?_
  omega

mutual

/-- Which values pack that lie in no more containers than the packer takes. -/
theorem exists_encodeInside_iff : ∀ {inside : Nat} {j : Json}, (∀ n ∈ most, inside ≤ n) →
    ((∃ bytes, encodeInside most inside j = .ok bytes) ↔
      j.Everywhere PacksWithParts ∧ ∀ n ∈ most, inside + j.nesting ≤ n)
  | _, .null, room | _, .bool _, room | _, .number (.real _), room =>
    ⟨fun _ => ⟨trivial, room⟩, fun _ => ⟨_, rfl⟩⟩
  | _, .number (.whole n), room => by
    change _ ↔ (fits n = true ∨ Text.IsPackable (toString n)) ∧ _
    rw [encodeInside]
    split
    · rename_i small
      exact ⟨fun _ => ⟨.inl small, room⟩, fun _ => ⟨_, rfl⟩⟩
    · rename_i large
      rw [exists_packText_iff]
      exact ⟨fun packs => ⟨.inr packs, room⟩, fun packs => packs.1.resolve_left large⟩
  | _, .text s, room => by
    rw [encodeInside, exists_packText_iff]
    exact ⟨fun packs => ⟨packs, room⟩, fun packs => packs.1⟩
  | inside, .list items, room => by
    have parts := @exists_packItems_iff inside items room
    simp only [encodeInside_list_eq_ok_iff, Everywhere, PacksWithParts, nesting]
    constructor
    · rintro ⟨_, rest, packed, short, -⟩
      obtain ⟨each, shallow⟩ := parts.mp ⟨rest, packed⟩
      exact ⟨⟨short, each⟩, shallow⟩
    · rintro ⟨⟨short, each⟩, shallow⟩
      obtain ⟨rest, packed⟩ := parts.mpr ⟨each, shallow⟩
      exact ⟨_, rest, packed, short, rfl⟩
  | inside, .object members, room => by
    have parts := @exists_packMembers_iff inside members room
    simp only [encodeInside_object_eq_ok_iff, Everywhere, PacksWithParts, nesting]
    constructor
    · rintro ⟨_, rest, packed, short, -⟩
      obtain ⟨names, each, shallow⟩ := parts.mp ⟨rest, packed⟩
      exact ⟨⟨⟨short, names⟩, each⟩, shallow⟩
    · rintro ⟨⟨⟨short, names⟩, each⟩, shallow⟩
      obtain ⟨rest, packed⟩ := parts.mpr ⟨names, each, shallow⟩
      exact ⟨_, rest, packed, short, rfl⟩

theorem exists_packItems_iff : ∀ {inside : Nat} {items : List Json}, (∀ n ∈ most, inside ≤ n) →
    ((∃ bytes, packItems most (inside + 1) items = .ok bytes) ↔
      ItemsEverywhere PacksWithParts items ∧ ∀ n ∈ most, inside + nestingOfItems items ≤ n)
  | _, [], room => ⟨fun _ => ⟨trivial, room⟩, fun _ => ⟨_, rfl⟩⟩
  | inside, item :: rest, room => by
    have others := @exists_packItems_iff inside rest room
    simp only [packItems_cons_eq_ok_iff, ItemsEverywhere, nestingOfItems, forall_mem_max_le_iff]
    constructor
    · rintro ⟨_, head, tail, within, first, later, -⟩
      obtain ⟨here, shallow⟩ := (exists_encodeInside_iff within).mp ⟨head, first⟩
      obtain ⟨each, shallowLater⟩ := others.mp ⟨tail, later⟩
      exact ⟨⟨here, each⟩, shallow, shallowLater⟩
    · rintro ⟨⟨here, each⟩, shallow, shallowLater⟩
      have within (n : Nat) (limit : n ∈ most) : inside + 1 ≤ n :=
        Nat.le_of_add_right_le (shallow n limit)
      obtain ⟨head, first⟩ := (exists_encodeInside_iff within).mpr ⟨here, shallow⟩
      obtain ⟨tail, later⟩ := others.mpr ⟨each, shallowLater⟩
      exact ⟨_, head, tail, within, first, later, rfl⟩

theorem exists_packMembers_iff : ∀ {inside : Nat} {members : List (String × Json)},
    (∀ n ∈ most, inside ≤ n) →
    ((∃ bytes, packMembers most (inside + 1) members = .ok bytes) ↔
      (∀ member ∈ members, Text.IsPackable member.1) ∧
        MembersEverywhere PacksWithParts members ∧
        ∀ n ∈ most, inside + nestingOfMembers members ≤ n)
  | _, [], room => ⟨fun _ => ⟨fun _ none => absurd none List.not_mem_nil, trivial, room⟩,
      fun _ => ⟨_, rfl⟩⟩
  | inside, (name, value) :: rest, room => by
    have others := @exists_packMembers_iff inside rest room
    simp only [packMembers_cons_eq_ok_iff, MembersEverywhere, nestingOfMembers,
      List.forall_mem_cons, forall_mem_max_le_iff]
    constructor
    · rintro ⟨_, head, middle, tail, within, named, first, later, -⟩
      obtain ⟨here, shallow⟩ := (exists_encodeInside_iff within).mp ⟨middle, first⟩
      obtain ⟨names, each, shallowLater⟩ := others.mp ⟨tail, later⟩
      exact ⟨⟨exists_packText_iff.mp ⟨head, named⟩, names⟩, ⟨here, each⟩, shallow, shallowLater⟩
    · rintro ⟨⟨packable, names⟩, ⟨here, each⟩, shallow, shallowLater⟩
      have within (n : Nat) (limit : n ∈ most) : inside + 1 ≤ n :=
        Nat.le_of_add_right_le (shallow n limit)
      obtain ⟨head, named⟩ := exists_packText_iff.mpr packable
      obtain ⟨middle, first⟩ := (exists_encodeInside_iff within).mpr ⟨here, shallow⟩
      obtain ⟨tail, later⟩ := others.mpr ⟨names, each, shallowLater⟩
      exact ⟨_, head, middle, tail, within, named, first, later, rfl⟩

end

/-- Which values pack. -/
theorem exists_encode_iff {j : Json} :
    (∃ bytes, encode most j = .ok bytes) ↔ j.IsPackable most := by
  have whole := @exists_encodeInside_iff most 0 j fun n _ => Nat.zero_le n
  simp only [Nat.zero_add] at whole
  exact whole.trans ⟨fun packs => ⟨packs.1, packs.2⟩, fun packs => ⟨packs.parts, packs.shallow⟩⟩

end MessagePack

end Fitout
