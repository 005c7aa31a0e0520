import Muster.Control.Packet
import Muster.Text.Utf8

/-!
# The encoding of control packets

Packets as bytes.  Numbers have a fixed width and stand with their low byte first; a choice is
written as its number in 32 bits, a length in 64 bits in front of what it counts; an address stands
behind the number of its family, its bytes in network order.
-/

namespace Muster.Encoding

/-- The low `width` bytes of a number, the lowest first. -/
def littleEndian : Nat → Nat → List UInt8
  | 0, _ => []
  | width + 1, value => value.toUInt8 :: littleEndian width (value / 256)

def word16 (value : UInt16) : List UInt8 :=
  littleEndian 2 value.toNat

def word32 (value : UInt32) : List UInt8 :=
  littleEndian 4 value.toNat

def word64 (value : UInt64) : List UInt8 :=
  littleEndian 8 value.toNat

def choice (number : Nat) : List UInt8 :=
  littleEndian 4 number

def bool (value : Bool) : List UInt8 :=
  [if value then 1 else 0]

/-- A length in front of the bytes of the elements. -/
def list {α : Type} (element : α → List UInt8) (values : List α) : List UInt8 :=
  littleEndian 8 values.length ++ values.flatMap element

/-- The number of bytes in front of the bytes of a text. -/
def text (value : String) : List UInt8 :=
  let bytes := Text.Utf8.encode value.toList
  littleEndian 8 bytes.length ++ bytes

/-- Sixteen bits with the high byte first. -/
def group (value : UInt16) : List UInt8 :=
  [(value.toNat / 256).toUInt8, value.toNat.toUInt8]

def ip : Ip → List UInt8
  | .v4 a b c d => choice 0 ++ [a, b, c, d]
  | .v6 g₀ g₁ g₂ g₃ g₄ g₅ g₆ g₇ =>
    choice 1 ++ group g₀ ++ group g₁ ++ group g₂ ++ group g₃ ++ group g₄ ++ group g₅ ++
      group g₆ ++ group g₇

/-- An endpoint; its zone has a meaning on the sender's machine only and is left out. -/
def endpoint (value : Endpoint) : List UInt8 :=
  ip value.ip ++ word16 value.port

def criteria (value : Criteria) : List UInt8 :=
  word32 value.minPlayers ++ word32 value.maxPing.toUInt32 ++ word64 value.maxScore.toUInt64 ++
    word32 value.maxPlayers.toUInt32

def preferredServer (value : PreferredServer) : List UInt8 :=
  endpoint value.address ++ word32 value.ping

def ineligibility : Ineligibility → List UInt8
  | .notPreferred => choice 0
  | .waitingForPlayers current required => choice 1 ++ word32 current ++ word32 required
  | .pingTooHigh ping max => choice 2 ++ word32 ping ++ word32 max
  | .scoreTooHigh score max => choice 3 ++ word64 score.toUInt64 ++ word64 max.toUInt64
  | .tooManyPlayers current max => choice 4 ++ word32 current ++ word32 max

def possibleMatch (value : PossibleMatch) : List UInt8 :=
  endpoint value.server ++ text value.hostname ++ word64 value.quality.bits ++
    list word64 value.players ++ list ineligibility value.blockedBy

def dequeueReason : DequeueReason → List UInt8
  | .unknown => choice 0
  | .joined => choice 1
  | .userLeave => choice 2
  | .disconnect => choice 3
  | .joinFailed => choice 4
  | .joinTimeout => choice 5
  | .maxJoinAttemptsReached => choice 6

def joinResult : JoinResult → List UInt8
  | .joined => choice 0
  | .failed serverFull => choice 1 ++ bool serverFull
  | .rejected => choice 2

def matchmakingError : MatchmakingError → List UInt8
  | .alreadySearching => choice 0
  | .notSearching => choice 1
  | .alreadyJoining => choice 2
  | .queueFull => choice 3
  | .unknownSession => choice 4

def clientEvent : ClientEvent → List UInt8
  | .searchUpdate attempts possibleMatches =>
    choice 0 ++ word32 attempts ++ list possibleMatch possibleMatches
  | .matchFound server players => choice 1 ++ endpoint server ++ list word64 players
  | .queuePosition server position queueLength =>
    choice 2 ++ endpoint server ++ word64 position ++ word64 queueLength
  | .joinServer server attempt timeout =>
    choice 3 ++ endpoint server ++ word32 attempt ++ word64 timeout
  | .dequeued server reason => choice 4 ++ endpoint server ++ dequeueReason reason
  | .failure error => choice 5 ++ matchmakingError error

def packet : Packet → List UInt8
  | .hello version player name => choice 0 ++ word32 version ++ word64 player ++ text name
  | .enterMatchmaking search servers =>
    choice 1 ++ criteria search ++ list preferredServer servers
  | .updatePreferences search servers =>
    choice 2 ++ criteria search ++ list preferredServer servers
  | .leaveMatchmaking => choice 3
  | .joinAck server result => choice 4 ++ endpoint server ++ joinResult result
  | .heartbeat timestamp => choice 5 ++ word64 timestamp
  | .disconnect => choice 6
  | .welcome player => choice 7 ++ word64 player
  | .rejected reason => choice 8 ++ text reason
  | .event event => choice 9 ++ clientEvent event

end Muster.Encoding
