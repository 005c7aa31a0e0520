import Muster.Control.Packet
import Muster.Text.Utf8

/-!
# Reading control packets

Each reader takes a value from the front of a byte string and returns what is left.  A packet may be
followed by further bytes, which are ignored.  Truth values and texts are checked strictly, and the
number of a choice must be one that exists.
-/

namespace Muster

/-- What is wrong with the bytes of a packet. -/
inductive DecodeError where
  /-- The bytes end inside a number. -/
  | unexpectedEnd
  /-- The bytes end inside a text. -/
  | textTooShort
  /-- A text is not well-formed. -/
  | invalidText (fault : Text.Utf8.Fault)
  /-- A truth value is neither zero nor one. -/
  | invalidBool (found : UInt8)
  /-- A choice has no such number; `expected` says which there are. -/
  | unknownChoice (found : Nat) (expected : String)
  deriving DecidableEq, Repr

def DecodeError.message : DecodeError → String
  | unexpectedEnd => "io error: unexpected end of file"
  | textTooShort => "io error: "
  | invalidText fault => "string is not valid utf8: " ++ fault.message
  | invalidBool found =>
    "invalid u8 while decoding bool, expected 0 or 1, found " ++ toString found.toNat
  | unknownChoice found expected =>
    "invalid value: integer `" ++ toString found ++ "`, expected " ++ expected

namespace Decoding

/-- Reads a value and returns the bytes behind it. -/
abbrev Reader (α : Type) := List UInt8 → Except DecodeError (α × List UInt8)

def done {α : Type} (value : α) : Reader α :=
  fun bytes => .ok (value, bytes)

/-- Reads one value and then what depends on it. -/
def andThen {α β : Type} (first : Reader α) (next : α → Reader β) : Reader β :=
  fun bytes =>
    match first bytes with
    | .error error => .error error
    | .ok (value, rest) => next value rest

instance : Monad Reader where
  pure := done
  bind := andThen

def refuse {α : Type} (error : DecodeError) : Reader α :=
  fun _ => .error error

/-- The given number of bytes, or an error where there are fewer. -/
def take (error : DecodeError) (count : Nat) : Reader (List UInt8) :=
  fun bytes =>
    if bytes.length < count then .error error
    else .ok (bytes.take count, bytes.drop count)

/-- The number that bytes write, the lowest first. -/
def valueOf : List UInt8 → Nat
  | [] => 0
  | byte :: rest => byte.toNat + 256 * valueOf rest

def number (width : Nat) : Reader Nat := do
  return valueOf (← take .unexpectedEnd width)

def word16 : Reader UInt16 := do
  return (← number 2).toUInt16

def word32 : Reader UInt32 := do
  return (← number 4).toUInt32

def word64 : Reader UInt64 := do
  return (← number 8).toUInt64

def byte : Reader UInt8 := do
  return (← number 1).toUInt8

def bool : Reader Bool := do
  let value ← byte
  if value = 0 then return false
  else if value = 1 then return true
  else refuse (.invalidBool value)

def elements {α : Type} (element : Reader α) : Nat → Reader (List α)
  | 0 => return []
  | count + 1 => do
    let value ← element
    let rest ← elements element count
    return value :: rest

def list {α : Type} (element : Reader α) : Reader (List α) := do
  elements element (← number 8)

/-- A length and as many bytes of text. -/
def text : Reader String := do
  match Text.Utf8.decode (← take .textTooShort (← number 8)) with
  | .ok chars => return String.ofList chars
  | .error fault => refuse (.invalidText fault)

/-- Sixteen bits with the high byte first. -/
def group : Reader UInt16 := do
  let high ← byte
  let low ← byte
  return (high.toNat * 256 + low.toNat).toUInt16

/-- A choice without such a number, among as many as there are. -/
def unknownChoice {α : Type} (found count : Nat) : Reader α :=
  refuse (.unknownChoice found ("variant index 0 <= i < " ++ toString count))

def ip : Reader Ip := do
  match ← number 4 with
  | 0 => return .v4 (← byte) (← byte) (← byte) (← byte)
  | 1 =>
    return .v6 (← group) (← group) (← group) (← group) (← group) (← group) (← group) (← group)
  | found => refuse (.unknownChoice found "\x60V4\x60 or \x60V6\x60")

/-- An endpoint; packets tell no zones. -/
def endpoint : Reader Endpoint := do
  return .ofIp (← ip) (← word16)

def criteria : Reader Criteria := do
  return ⟨← word32, (← word32).toInt32, (← word64).toInt64, (← word32).toInt32⟩

def preferredServer : Reader PreferredServer := do
  return ⟨← endpoint, ← word32⟩

def ineligibility : Reader Ineligibility := do
  match ← number 4 with
  | 0 => return .notPreferred
  | 1 => return .waitingForPlayers (← word32) (← word32)
  | 2 => return .pingTooHigh (← word32) (← word32)
  | 3 => return .scoreTooHigh (← word64).toInt64 (← word64).toInt64
  | 4 => return .tooManyPlayers (← word32) (← word32)
  | found => unknownChoice found 5

def possibleMatch : Reader PossibleMatch := do
  return ⟨← endpoint, ← text, ⟨← word64⟩, ← list word64, ← list ineligibility⟩

def dequeueReason : Reader DequeueReason := do
  match ← number 4 with
  | 0 => return .unknown
  | 1 => return .joined
  | 2 => return .userLeave
  | 3 => return .disconnect
  | 4 => return .joinFailed
  | 5 => return .joinTimeout
  | 6 => return .maxJoinAttemptsReached
  | found => unknownChoice found 7

def joinResult : Reader JoinResult := do
  match ← number 4 with
  | 0 => return .joined
  | 1 => return .failed (← bool)
  | 2 => return .rejected
  | found => unknownChoice found 3

def matchmakingError : Reader MatchmakingError := do
  match ← number 4 with
  | 0 => return .alreadySearching
  | 1 => return .notSearching
  | 2 => return .alreadyJoining
  | 3 => return .queueFull
  | 4 => return .unknownSession
  | found => unknownChoice found 5

def clientEvent : Reader ClientEvent := do
  match ← number 4 with
  | 0 => return .searchUpdate (← word32) (← list possibleMatch)
  | 1 => return .matchFound (← endpoint) (← list word64)
  | 2 => return .queuePosition (← endpoint) (← word64) (← word64)
  | 3 => return .joinServer (← endpoint) (← word32) (← word64)
  | 4 => return .dequeued (← endpoint) (← dequeueReason)
  | 5 => return .failure (← matchmakingError)
  | found => unknownChoice found 6

def packet : Reader Packet := do
  match ← number 4 with
  | 0 => return .hello (← word32) (← word64) (← text)
  | 1 => return .enterMatchmaking (← criteria) (← list preferredServer)
  | 2 => return .updatePreferences (← criteria) (← list preferredServer)
  | 3 => return .leaveMatchmaking
  | 4 => return .joinAck (← endpoint) (← joinResult)
  | 5 => return .heartbeat (← word64)
  | 6 => return .disconnect
  | 7 => return .welcome (← word64)
  | 8 => return .rejected (← text)
  | 9 => return .event (← clientEvent)
  | found => unknownChoice found 10

end Decoding

/-- Reads a packet; the bytes behind it are ignored. -/
def Packet.ofBytes? (bytes : List UInt8) : Except DecodeError Packet :=
  match Decoding.packet bytes with
  | .error error => .error error
  | .ok (packet, _) => .ok packet

end Muster
