import Mathlib.Logic.Function.Basic
import Fitout.Proofs.Cache.Operation
import Fitout.Proofs.MessagePack.RoundTrip

/-!
# The bodies that stand in the cache

A body stands for a list from the moment it is stored until another one is stored for this list, or
the list runs out, or the cache is dropped. As long as it stands, the server holds its packed bytes
under the key of the list, whatever else is done with the cache, so a lookup that the server answers
gives the body back as it was packed.
-/

namespace Fitout.Cache

/-- Whether the next command reaches the server and is not refused. -/
def Answers (c : Cache) : Prop :=
  c.connected = true ∧ c.server.refusal c.server.commands = none

/-- What can be done with a cache, and what can befall it. -/
inductive Operation where
  | get (name : String)
  | set (name : String) (body : Json)
  | invalidateAll
  | connect
  | disconnect
  /-- The time for which a list was stored runs out. -/
  | expire (name : String)

/-- A cache in use with a packer, and the body that stands for each list. -/
structure Use where
  cache : Cache
  nesting : Option Nat
  standing : String → Option Json

namespace Use

/-- A cache of which it is not known what it holds. -/
def begin (c : Cache) (nesting : Option Nat) : Use :=
  ⟨c, nesting, fun _ => none⟩

def after (u : Use) : Operation → Use
  | .get name => { u with cache := (u.cache.get name).cache }
  | .set name body =>
    let step := u.cache.set u.nesting name body
    match step.result with
    | .ok true => ⟨step.cache, u.nesting, Function.update u.standing name (some body)⟩
    | _ => { u with cache := step.cache }
  -- What a dropped cache still holds is promised for no list.
  | .invalidateAll => .begin u.cache.invalidateAll.cache u.nesting
  | .connect => { u with cache := u.cache.connect.cache }
  | .disconnect => { u with cache := u.cache.disconnect.1 }
  | .expire name =>
    ⟨{ u.cache with server := u.cache.server.remove (key name) }, u.nesting,
      Function.update u.standing name none⟩

def run (u : Use) (operations : List Operation) : Use :=
  operations.foldl after u

/-- A body stands once the server has taken it. -/
theorem after_set_of_packed (u : Use) (name : String) {body : Json} {bytes : Bytes}
    (answers : u.cache.Answers) (packed : MessagePack.encode u.nesting body = .ok bytes) :
    u.after (.set name body) =
      ⟨{ u.cache with server := u.cache.server.send.1.put (key name) ⟨some u.cache.ttl, bytes⟩ },
        u.nesting, Function.update u.standing name (some body)⟩ := by
  have sets := u.cache.sets_set u.nesting name body
  rw [after]
  generalize u.cache.set u.nesting name body = step at sets ⊢
  cases sets with
  | off off => cases answers.1.symm.trans off
  | unpackable _ packing => cases packed.symm.trans packing
  | refused _ _ refused => cases answers.2.symm.trans refused
  | stored _ same _ =>
    obtain rfl := Except.ok.inj (packed.symm.trans same)
    rfl

/-- Whether the server holds the packed bytes of all bodies that stand. -/
def Holds (u : Use) : Prop :=
  ∀ name body, u.standing name = some body →
    ∃ stored, u.cache.server.get? (key name) = some stored ∧
      MessagePack.encode u.nesting body = .ok stored.bytes

variable {u : Use}

theorem holds_begin (c : Cache) (nesting : Option Nat) : (begin c nesting).Holds := by
  intro name body none
  cases none

/-- The bodies that stand are held by any cache with the same entries. -/
theorem Holds.of_entries_eq {c : Cache} (holds : u.Holds)
    (same : c.server.entries = u.cache.server.entries) : Holds { u with cache := c } := by
  intro name body stands
  obtain ⟨stored, held, packed⟩ := holds name body stands
  refine ⟨stored, ?_, packed⟩
  rw [KeyValueServer.get?] at held ⊢
  rw [same]
  exact held

/-- What one list goes through leaves the others to be held as before. -/
theorem Holds.change {c : Cache} {name : String} {now : Option Json} (holds : u.Holds)
    (here : ∀ body, now = some body → ∃ stored, c.server.get? (key name) = some stored ∧
      MessagePack.encode u.nesting body = .ok stored.bytes)
    (others : ∀ other ≠ name, c.server.get? (key other) = u.cache.server.get? (key other)) :
    Holds ⟨c, u.nesting, Function.update u.standing name now⟩ := by
  intro other body stands
  dsimp only at stands
  by_cases same : other = name
  · subst same
    rw [Function.update_self] at stands
    exact here body stands
  · rw [Function.update_of_ne same] at stands
    obtain ⟨stored, held, packed⟩ := holds other body stands
    exact ⟨stored, (others other same).trans held, packed⟩

theorem Holds.after_set (holds : u.Holds) (name : String) (body : Json) :
    (u.after (.set name body)).Holds := by
  have sets := u.cache.sets_set u.nesting name body
  have others (other : String) (ne : other ≠ name) :
      (u.cache.set u.nesting name body).cache.server.get? (key other) =
        u.cache.server.get? (key other) :=
    get?_set_of_ne ne
  rw [after]
  generalize u.cache.set u.nesting name body = step at sets others ⊢
  cases sets with
  | off | unpackable | refused => exact holds
  | stored on packed taken =>
    apply holds.change _ others
    rintro now ⟨⟩
    exact ⟨_, Json.lookup_setMember_self, packed⟩

theorem Holds.after_expire (holds : u.Holds) (name : String) :
    (u.after (.expire name)).Holds := by
  apply holds.change
  · intro body none
    cases none
  · intro other ne
    exact KeyValueServer.get?_remove_of_ne _ fun equal => ne (key_injective equal)

theorem Holds.after (holds : u.Holds) (operation : Operation) : (u.after operation).Holds := by
  cases operation with
  | get name => exact holds.of_entries_eq entries_get
  | set name body => exact holds.after_set name body
  | invalidateAll => exact holds_begin _ _
  | connect => exact holds.of_entries_eq entries_connect
  | disconnect => exact holds.of_entries_eq entries_disconnect
  | expire name => exact holds.after_expire name

theorem Holds.run (holds : u.Holds) (operations : List Operation) : (u.run operations).Holds := by
  induction operations generalizing u with
  | nil => exact holds
  | cons operation rest inductionHypothesis => exact inductionHypothesis (holds.after operation)

end Use

section Lookup

variable {c : Cache} {nesting : Option Nat} {name : String}

theorem result_get_of_answers (answers : c.Answers) :
    (c.get name).result =
      match c.server.get? (key name) with
      | none => .ok none
      | some stored => (MessagePack.decode stored.bytes).map some := by
  have gets := c.gets_get name
  generalize c.get name = step at gets ⊢
  cases gets with
  | off off => cases answers.1.symm.trans off
  | refused _ refused => cases answers.2.symm.trans refused
  | absent _ _ missing => rw [missing]
  | held _ _ held => rw [held]

theorem result_get_of_not_answers (silent : ¬ c.Answers) : (c.get name).result = .ok none := by
  have gets := c.gets_get name
  generalize c.get name = step at gets ⊢
  cases gets with
  | off | refused | absent => rfl
  | held on taken _ => exact absurd ⟨on, taken⟩ silent

/-- A store does not change what a lookup of another list comes to, unless the server answers only
one of the two lookups. -/
theorem result_get_set_of_ne {other : String} {body : Json} (ne : other ≠ name)
    (alike : (c.set nesting name body).cache.Answers ↔ c.Answers) :
    ((c.set nesting name body).cache.get other).result = (c.get other).result := by
  by_cases answers : c.Answers
  · rw [result_get_of_answers answers, result_get_of_answers (alike.mpr answers),
      get?_set_of_ne ne]
  · rw [result_get_of_not_answers answers,
      result_get_of_not_answers fun now => answers (alike.mp now)]

end Lookup

/-- A lookup gives the body that stands for a list with all in it as it was, but for whole numbers
beyond 64 bits, which have become their digits; a store leaves the lookups of other lists alone. -/
theorem standing_body_is_returned (c : Cache) (nesting : Option Nat) (name : String) :
    (∀ operations content body, Json.readBody content = .ok body →
      let now := (Use.begin c nesting).run operations
      now.standing name = some body →
        (now.cache.Answers → (now.cache.get name).result = .ok (some (.ofJson body))) ∧
          (¬ now.cache.Answers → (now.cache.get name).result = .ok none) ∧
          (MessagePack.Value.ofJson body).toJson = body.packed) ∧
      (∀ n : Int, (Json.whole n).packed =
        if -2 ^ 63 ≤ n ∧ n ≤ 2 ^ 64 - 1 then Json.whole n else .text (toString n)) ∧
      ∀ other ≠ name, ∀ body, ((c.set nesting other body).cache.Answers ↔ c.Answers) →
        ((c.set nesting other body).cache.get name).result = (c.get name).result := by
  refine ⟨?_, fun n => ?_, fun other ne body alike => result_get_set_of_ne ne.symm alike⟩
  · intro operations content body read now stands
    have shaped := Json.shaped_of_readBody read
    obtain ⟨stored, held, packed⟩ := (Use.holds_begin c nesting).run operations name body stands
    have unpacked := MessagePack.decode_encode packed shaped.named
      (Nat.le_trans shaped.shallow (by decide))
    refine ⟨fun answers => ?_, result_get_of_not_answers, MessagePack.toJson_ofJson body⟩
    rw [result_get_of_answers answers, held]
    simp only [unpacked, Except.map]
  · rw [Json.packed]
    apply if_congr _ rfl rfl
    rw [MessagePack.fits_iff]
    omega

/-- Between its store and its lookup the connection is lost for a time. -/
theorem large_number_comes_back_as_digits :
    ∃ body value, Json.readBody (Bytes.ofText "[18446744073709551616, -7]") = .ok body ∧
      let now := (Use.begin ⟨"redis://cache", defaultTtl, .empty, true, 0⟩
        (some MessagePack.usualNesting)).run [.set "products" body, .disconnect, .connect]
      now.standing "products" = some body ∧
        (now.cache.get "products").result = .ok (some value) ∧
        value.toJson.compact = "[\"18446744073709551616\",-7]" := by
  let content := Bytes.ofText "[18446744073709551616, -7]"
  have evaluated : (Json.readBody content).toOption.map (fun body =>
      ((MessagePack.encode (some MessagePack.usualNesting) body).isOk, body.packed.compact)) =
      some (true, "[\"18446744073709551616\",-7]") := by
    decide +kernel
  obtain ⟨body, read, known⟩ := Option.map_eq_some_iff.mp evaluated
  replace read := of_toOption_eq_some read
  obtain ⟨packs, compact⟩ := Prod.mk.inj known
  obtain ⟨bytes, packed⟩ := exists_eq_ok_of_isOk packs
  let u := Use.begin ⟨"redis://cache", defaultTtl, .empty, true, 0⟩ (some MessagePack.usualNesting)
  let later : List Operation := [.disconnect, .connect]
  have stored := u.after_set_of_packed "products" ⟨rfl, rfl⟩ packed
  have now : u.run (.set "products" body :: later) = _ := congrArg (Use.run · later) stored
  have stands : (u.run (.set "products" body :: later)).standing "products" = some body := by
    rw [now]
    rfl
  have answers : (u.run (.set "products" body :: later)).cache.Answers := by
    rw [now]
    exact ⟨rfl, rfl⟩
  obtain ⟨returned, -, same⟩ := (standing_body_is_returned _ _ "products").1 _ _ _ read stands
  refine ⟨body, .ofJson body, read, stands, returned answers, ?_⟩
  rw [same]
  exact compact

end Fitout.Cache
