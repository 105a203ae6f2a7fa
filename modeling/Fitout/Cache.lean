import Fitout.Journal.Event
import Fitout.MessagePack.Decode
import Fitout.MessagePack.Encode

/-!
The cache of list bodies, kept packed in a key-value server. A server that fails makes every lookup
a miss; bytes that cannot be unpacked are an error.
-/

namespace Fitout

structure Stored where
  /-- For how many seconds it was stored, unless for good. -/
  ttl : Option Int
  bytes : Bytes

/-- A key-value server, which may refuse any command with a message. -/
structure KeyValueServer where
  entries : List (String × Stored)
  commands : Nat
  /-- The message with which a command is refused, by its number. -/
  refusal : Nat → Option String

namespace KeyValueServer

def empty : KeyValueServer :=
  ⟨[], 0, fun _ => none⟩

def get? (s : KeyValueServer) (key : String) : Option Stored :=
  s.entries.lookup key

def put (s : KeyValueServer) (key : String) (stored : Stored) : KeyValueServer :=
  { s with entries := Json.setMember key stored s.entries }

/-- Remove all keys with a common start. -/
def removeAll (s : KeyValueServer) (start : String) : KeyValueServer :=
  { s with entries := s.entries.filter (!·.1.startsWith start) }

def keysOf (s : KeyValueServer) (start : String) : List String :=
  (s.entries.map (·.1)).filter (·.startsWith start)

/-- Send a command: the server after it, and the refusal if it is refused. -/
def send (s : KeyValueServer) : KeyValueServer × Option String :=
  ({ s with commands := s.commands + 1 }, s.refusal s.commands)

/-- A server that refuses all commands, or none. -/
def setDown (s : KeyValueServer) (message : Option String) : KeyValueServer :=
  { s with refusal := fun _ => message }

end KeyValueServer

/-- A cache over a key-value server; without a connection it holds nothing. -/
structure Cache where
  url : String
  ttl : Int
  server : KeyValueServer
  connected : Bool
  closed : Nat

namespace Cache

/-- What an operation gives, with the new state and what there is to report. -/
structure Step (ε α : Type) where
  result : Except ε α
  cache : Cache
  events : Journal

/-- Five minutes, in seconds. -/
def defaultTtl : Int := 300

def keyStart : String := "catalog:"

def key (kind : String) : String :=
  keyStart ++ kind

/-- The body stored for a list, if there is one to be had. -/
def get (c : Cache) (kind : String) : Step MessagePack.DecodeError (Option MessagePack.Value) :=
  if !c.connected then ⟨.ok none, c, []⟩
  else
    let (server, refused) := c.server.send
    let c := { c with server }
    match refused with
    | some message => ⟨.ok none, c, [.cacheFailed (.get kind) message]⟩
    | none =>
      match server.get? (key kind) with
      | none => ⟨.ok none, c, [.cacheLookup kind false]⟩
      | some stored => ⟨(MessagePack.decode stored.bytes).map some, c, [.cacheLookup kind true]⟩

/-- Store the body of a list, packed by a packer that may limit the nesting. The result says whether
it was stored. -/
def set (c : Cache) (nesting : Option Nat) (kind : String) (body : Json) :
    Step MessagePack.EncodeError Bool :=
  if !c.connected then ⟨.ok false, c, []⟩
  else match MessagePack.encode nesting body with
    | .error e => ⟨.error e, c, []⟩
    | .ok bytes =>
      let (server, refused) := c.server.send
      match refused with
      | some message => ⟨.ok false, { c with server }, [.cacheFailed (.set kind) message]⟩
      | none => ⟨.ok true, { c with server := server.put (key kind) ⟨some c.ttl, bytes⟩ }, []⟩

/-- Remove all bodies; how many there were. -/
def invalidateAll (c : Cache) : Step Empty Nat :=
  if !c.connected then ⟨.ok 0, c, []⟩
  else
    let (scanned, refused) := c.server.send
    match refused with
    | some message => ⟨.ok 0, { c with server := scanned }, [.cacheFailed .invalidate message]⟩
    | none =>
      let found := (scanned.keysOf keyStart).length
      if found == 0 then ⟨.ok 0, { c with server := scanned }, [.cacheInvalidated 0]⟩
      else
        let (deleting, refused) := scanned.send
        match refused with
        | some message =>
          ⟨.ok 0, { c with server := deleting }, [.cacheFailed .invalidate message]⟩
        | none =>
          ⟨.ok found, { c with server := deleting.removeAll keyStart }, [.cacheInvalidated found]⟩

/-- Connect and see whether the server answers. -/
def connect (c : Cache) : Step String Unit :=
  let (server, refused) := c.server.send
  let c := { c with server, connected := true }
  match refused with
  | some message => ⟨.error message, c, []⟩
  | none => ⟨.ok (), c, [.cacheConnected c.url]⟩

def disconnect (c : Cache) : Cache × Journal :=
  if c.connected then
    ({ c with connected := false, closed := c.closed + 1 }, [.cacheDisconnected])
  else (c, [])

end Cache

end Fitout
