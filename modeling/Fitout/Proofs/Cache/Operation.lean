import Fitout.Proofs.Json.Shape
import Fitout.Source.Overlap

/-!
# What the operations of the cache come to

A lookup and a store each come to one of four things. What a server holds under one key is left
alone by stores and removals under others.
-/

namespace Fitout

namespace KeyValueServer

theorem mem_keysOf_of_get? {s : KeyValueServer} {key start : String} {stored : Stored}
    (held : s.get? key = some stored) (starts : key.startsWith start = true) :
    key ∈ s.keysOf start := by
  obtain ⟨before, after, entries, -⟩ := List.lookup_eq_some_iff.mp held
  refine List.mem_filter.mpr ⟨?_, starts⟩
  rw [entries]
  simp

theorem get?_removeAll {s : KeyValueServer} {key start : String}
    (starts : key.startsWith start = true) : (s.removeAll start).get? key = none := by
  refine List.lookup_eq_none_iff.mpr fun entry member => bne_iff_ne.mpr ?_
  rintro rfl
  obtain ⟨-, other⟩ := List.mem_filter.mp member
  rw [starts] at other
  cases other

theorem get?_remove_self (s : KeyValueServer) (key : String) : (s.remove key).get? key = none := by
  refine List.lookup_eq_none_iff.mpr fun entry member => bne_iff_ne.mpr ?_
  rintro rfl
  obtain ⟨-, other⟩ := List.mem_filter.mp member
  exact absurd rfl (bne_iff_ne.mp other)

theorem get?_remove_of_ne (s : KeyValueServer) {key other : String} (ne : other ≠ key) :
    (s.remove key).get? other = s.get? other := by
  obtain ⟨entries, commands, refusal⟩ := s
  simp only [get?, remove]
  induction entries with
  | nil => rfl
  | cons entry rest inductionHypothesis =>
    obtain ⟨name, stored⟩ := entry
    by_cases removed : name = key
    · subst removed
      simp [List.lookup_cons, beq_false_of_ne ne, inductionHypothesis]
    · simp [List.lookup_cons, removed, inductionHypothesis]

end KeyValueServer

namespace Cache

/-- What a lookup can come to. -/
inductive Gets (c : Cache) (name : String) :
    Step MessagePack.DecodeError (Option MessagePack.Value) → Prop where
  | off (off : c.connected = false) : c.Gets name ⟨.ok none, c, []⟩
  | refused {message : String} (on : c.connected = true)
      (refused : c.server.refusal c.server.commands = some message) :
      c.Gets name
        ⟨.ok none, { c with server := c.server.send.1 }, [.cacheFailed (.get name) message]⟩
  | absent (on : c.connected = true) (taken : c.server.refusal c.server.commands = none)
      (missing : c.server.get? (key name) = none) :
      c.Gets name ⟨.ok none, { c with server := c.server.send.1 }, [.cacheLookup name false]⟩
  | held {stored : Stored} (on : c.connected = true)
      (taken : c.server.refusal c.server.commands = none)
      (held : c.server.get? (key name) = some stored) :
      c.Gets name ⟨(MessagePack.decode stored.bytes).map some,
        { c with server := c.server.send.1 }, [.cacheLookup name true]⟩

/-- What storing a body can come to. -/
inductive Sets (c : Cache) (nesting : Option Nat) (name : String) (body : Json) :
    Step MessagePack.EncodeError Bool → Prop where
  | off (off : c.connected = false) : c.Sets nesting name body ⟨.ok false, c, []⟩
  | unpackable {e : MessagePack.EncodeError} (on : c.connected = true)
      (packing : MessagePack.encode nesting body = .error e) :
      c.Sets nesting name body ⟨.error e, c, []⟩
  | refused {bytes : Bytes} {message : String} (on : c.connected = true)
      (packed : MessagePack.encode nesting body = .ok bytes)
      (refused : c.server.refusal c.server.commands = some message) :
      c.Sets nesting name body
        ⟨.ok false, { c with server := c.server.send.1 }, [.cacheFailed (.set name) message]⟩
  | stored {bytes : Bytes} (on : c.connected = true)
      (packed : MessagePack.encode nesting body = .ok bytes)
      (taken : c.server.refusal c.server.commands = none) :
      c.Sets nesting name body
        ⟨.ok true, { c with server := c.server.send.1.put (key name) ⟨some c.ttl, bytes⟩ }, []⟩

variable {c : Cache} {nesting : Option Nat} {name : String}

theorem gets_get (c : Cache) (name : String) : c.Gets name (c.get name) := by
  unfold get
  split
  · rename_i off
    exact .off (by simpa using off)
  · rename_i on
    have on : c.connected = true := by simpa using on
    dsimp only
    split
    · rename_i refused
      exact .refused on refused
    · rename_i taken
      split
      · rename_i missing
        exact .absent on taken missing
      · rename_i held
        exact .held on taken held

theorem sets_set (c : Cache) (nesting : Option Nat) (name : String) (body : Json) :
    c.Sets nesting name body (c.set nesting name body) := by
  unfold set
  split
  · rename_i off
    exact .off (by simpa using off)
  · rename_i on
    have on : c.connected = true := by simpa using on
    split
    · rename_i packing
      exact .unpackable on packing
    · rename_i packed
      dsimp only
      split
      · rename_i refused
        exact .refused on packed refused
      · rename_i taken
        exact .stored on packed taken

/-- All of a cache that lookups and stores leave alone. -/
def setup (c : Cache) : Cache :=
  { c with server := { c.server with entries := [], commands := 0 } }

theorem setup_get : (c.get name).cache.setup = c.setup := by
  have gets := c.gets_get name
  generalize c.get name = step at gets ⊢
  cases gets <;> rfl

theorem entries_get : (c.get name).cache.server.entries = c.server.entries := by
  have gets := c.gets_get name
  generalize c.get name = step at gets ⊢
  cases gets <;> rfl

theorem entries_connect : c.connect.cache.server.entries = c.server.entries := by
  unfold connect
  dsimp only
  split <;> rfl

theorem entries_disconnect : c.disconnect.1.server.entries = c.server.entries := by
  unfold disconnect
  split <;> rfl

theorem setup_set {body : Json} : (c.set nesting name body).cache.setup = c.setup := by
  have sets := c.sets_set nesting name body
  generalize c.set nesting name body = step at sets ⊢
  cases sets <;> rfl

theorem key_injective {name other : String} (same : key name = key other) : name = other :=
  String.append_right_inj _ |>.mp same

theorem get?_set_of_ne_key {body : Json} {other : String} (ne : other ≠ key name) :
    (c.set nesting name body).cache.server.get? other = c.server.get? other := by
  have sets := c.sets_set nesting name body
  generalize c.set nesting name body = step at sets ⊢
  cases sets with
  | off | unpackable | refused => rfl
  | stored => exact Json.lookup_setMember_of_ne ne

theorem get?_set_of_ne {body : Json} {other : String} (ne : other ≠ name) :
    (c.set nesting name body).cache.server.get? (key other) = c.server.get? (key other) :=
  get?_set_of_ne_key fun same => ne (key_injective same)

theorem setup_invalidateAll : c.invalidateAll.cache.setup = c.setup := by
  unfold invalidateAll
  split
  · rfl
  · dsimp only
    split
    · rfl
    · split
      · rfl
      · split <;> rfl

end Cache

end Fitout
