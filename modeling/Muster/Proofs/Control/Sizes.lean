import Mathlib.Algebra.BigOperators.Group.List.Basic
import Mathlib.Algebra.Order.BigOperators.Group.List
import Mathlib.Algebra.Order.Group.Nat
import Muster.Client.Session
import Muster.Proofs.Control.Exactness

/-!
# Sizes of events

How many bytes an event takes on its way to a player, who reads `maxPacketSize` bytes of a datagram
and no more.  Of an event that fits the player reads the event itself, and of a longer one nothing.
-/

namespace Muster

/-! ## The size of a packet -/

def Endpoint.size (endpoint : Endpoint) : Nat :=
  if endpoint.ip.isV6 then 22 else 10

def Ineligibility.size : Ineligibility → Nat
  | notPreferred => 4
  | waitingForPlayers .. | pingTooHigh .. | tooManyPlayers .. => 12
  | scoreTooHigh .. => 20

def textSize (text : String) : Nat :=
  (Text.Utf8.encode text.toList).length

def PossibleMatch.size (possible : PossibleMatch) : Nat :=
  possible.server.size + (8 + textSize possible.hostname) + 8 + (8 + 8 * possible.players.length) +
    (8 + (possible.blockedBy.map Ineligibility.size).sum)

/-- The size of the packet that tells the event. -/
def ClientEvent.size : ClientEvent → Nat
  | searchUpdate _ possibleMatches => 20 + (possibleMatches.map PossibleMatch.size).sum
  | matchFound server players => 16 + server.size + 8 * players.length
  | queuePosition server _ _ => 24 + server.size
  | joinServer server _ _ => 20 + server.size
  | dequeued server _ => 12 + server.size
  | failure _ => 12

namespace Encoding

theorem length_list {α : Type} {element : α → List UInt8} {size : α → Nat}
    (helement : ∀ value, (element value).length = size value) (values : List α) :
    (list element values).length = 8 + (values.map size).sum := by
  simp only [list, List.length_append, Decoding.length_littleEndian, List.length_flatMap, helement]

@[simp]
theorem length_word32 (value : UInt32) : (word32 value).length = 4 :=
  Decoding.length_littleEndian 4 _

@[simp]
theorem length_word64 (value : UInt64) : (word64 value).length = 8 :=
  Decoding.length_littleEndian 8 _

@[simp]
theorem length_choice (number : Nat) : (choice number).length = 4 :=
  Decoding.length_littleEndian 4 number

@[simp]
theorem length_list_word64 (values : List UInt64) :
    (list word64 values).length = 8 + 8 * values.length := by
  rw [length_list length_word64, List.map_const', List.sum_replicate_nat, Nat.mul_comm]

@[simp]
theorem length_text (value : String) : (text value).length = 8 + textSize value := by
  simp only [text, textSize, List.length_append, Decoding.length_littleEndian]

@[simp]
theorem length_endpoint (value : Endpoint) : (endpoint value).length = value.size := by
  obtain ⟨address, port, zone⟩ := value
  cases address <;>
    simp [endpoint, ip, group, word16, Endpoint.size, Ip.isV6, Decoding.length_littleEndian]

theorem length_ineligibility (value : Ineligibility) :
    (ineligibility value).length = value.size := by
  cases value <;> simp [ineligibility, Ineligibility.size]

theorem length_possibleMatch (value : PossibleMatch) :
    (possibleMatch value).length = value.size := by
  simp only [possibleMatch, PossibleMatch.size, List.length_append, length_endpoint, length_text,
    length_word64, length_list_word64, length_list length_ineligibility]

theorem length_event (value : ClientEvent) : (packet (.event value)).length = value.size := by
  rw [packet, List.length_append, length_choice]
  cases value with
  | searchUpdate attempts possibleMatches =>
      simp only [clientEvent, ClientEvent.size, List.length_append, length_choice, length_word32,
        length_list length_possibleMatch]
      omega
  | matchFound server players =>
      simp only [clientEvent, ClientEvent.size, List.length_append, length_choice, length_endpoint,
        length_list_word64]
      omega
  | queuePosition server position queueLength =>
      simp only [clientEvent, ClientEvent.size, List.length_append, length_choice, length_endpoint,
        length_word64]
      omega
  | joinServer server attempt timeout =>
      simp only [clientEvent, ClientEvent.size, List.length_append, length_choice, length_endpoint,
        length_word32, length_word64]
      omega
  | dequeued server reason =>
      have hreason : (dequeueReason reason).length = 4 := by cases reason <;> rfl
      simp only [clientEvent, ClientEvent.size, List.length_append, length_choice, length_endpoint,
        hreason]
      omega
  | failure error =>
      cases error <;> rfl

end Encoding

theorem Endpoint.size_le (endpoint : Endpoint) : endpoint.size ≤ 22 := by
  rw [size]
  split_ifs <;> omega

/-! ## Small lists and texts -/

theorem Decoding.isCountable_of_le {length : Nat} (hlength : length ≤ maxPacketSize) :
    IsCountable length :=
  Nat.lt_of_le_of_lt hlength (by decide)

theorem Ineligibility.one_le_size (reason : Ineligibility) : 1 ≤ reason.size := by
  cases reason <;> simp [size]

theorem Ineligibility.size_le (reason : Ineligibility) : reason.size ≤ 20 := by
  cases reason <;> simp [size]

theorem PossibleMatch.one_le_size (possible : PossibleMatch) : 1 ≤ possible.size := by
  rw [size]
  omega

theorem length_le_sum_map {α : Type} {size : α → Nat} (hsize : ∀ value, 1 ≤ size value)
    (values : List α) : values.length ≤ (values.map size).sum := by
  have hlength : (values.map size).length ≤ (values.map size).sum :=
    List.length_le_sum_of_one_le _ (List.forall_mem_map.mpr fun value _ => hsize value)
  rwa [List.length_map] at hlength

/-- A hint that fits a packet has no part that is too long to be written. -/
theorem PossibleMatch.isSendable_of_size_le {possible : PossibleMatch}
    (hserver : possible.server.IsSendable) (hsize : possible.size ≤ maxPacketSize) :
    possible.IsSendable := by
  have hblockedBy := length_le_sum_map Ineligibility.one_le_size possible.blockedBy
  rw [size] at hsize
  have hhostname : textSize possible.hostname ≤ maxPacketSize := by omega
  exact ⟨hserver, Decoding.isCountable_of_le hhostname, Decoding.isCountable_of_le (by omega),
    Decoding.isCountable_of_le (by omega)⟩

namespace ClientEvent

variable {event : ClientEvent}

/-! ## What a player reads -/

def received (event : ClientEvent) : Except DecodeError Packet :=
  Packet.ofBytes? ((Encoding.packet (.event event)).take maxPacketSize)

/-- The player reads just what was sent. -/
def IsHeard (event : ClientEvent) : Prop :=
  event.received = .ok (.event event)

theorem received_eq_ok_iff {packet : Packet} : event.received = .ok packet ↔
    packet.IsSendable ∧ Encoding.packet packet <+: Encoding.packet (.event event) ∧
      (Encoding.packet packet).length ≤ maxPacketSize := by
  rw [received, Packet.ofBytes?_eq_ok_iff, Decoding.isExact_packet.isPrefix_iff,
    List.prefix_take_iff]

theorem isHeard_iff : event.IsHeard ↔ event.IsSendable ∧ event.size ≤ maxPacketSize := by
  rw [IsHeard, received_eq_ok_iff, Encoding.length_event]
  exact and_congr_right fun _ => and_iff_right (List.prefix_refl _)

/-- An event that can be written is never taken for another packet. -/
theorem received_eq_ok_iff_of_isSendable (hsendable : event.IsSendable) {packet : Packet} :
    event.received = .ok packet ↔ packet = .event event ∧ event.size ≤ maxPacketSize := by
  rw [received_eq_ok_iff]
  constructor
  · rintro ⟨hpacket, hstarts, hlength⟩
    have hevent : (Packet.event event).IsSendable := hsendable
    obtain rfl := Decoding.isExact_packet.eq_of_prefix hpacket hevent hstarts
    rw [Encoding.length_event] at hlength
    exact ⟨rfl, hlength⟩
  · rintro ⟨rfl, hlength⟩
    rw [Encoding.length_event]
    exact ⟨hsendable, List.prefix_refl _, hlength⟩

/-- Of an event that is too long no packet is read. -/
theorem exists_received_eq_error (hsendable : event.IsSendable)
    (hlong : maxPacketSize < event.size) : ∃ error, event.received = .error error := by
  cases hreceived : event.received with
  | error error => exact ⟨error, rfl⟩
  | ok packet =>
      have hsize := ((received_eq_ok_iff_of_isSendable hsendable).mp hreceived).2
      exact absurd hsize (Nat.not_le_of_lt hlong)

section Searching

variable {client : Client} {nextHeartbeat : Nat}
  (hsearching : client.phase = .searching nextHeartbeat) (network : Network)

include hsearching

theorem receive_of_isHeard (hheard : event.IsHeard) :
    client.receive network (Encoding.packet (.event event)) =
      client.hear network (.event event) := by
  have hread : Packet.ofBytes? ((Encoding.packet (.event event)).take maxPacketSize) =
      .ok (.event event) := hheard
  rw [Client.receive, hsearching, hread]

/-- A player who searches takes no notice of an event that is too long. -/
theorem receive_of_size_gt (hsendable : event.IsSendable) (hlong : maxPacketSize < event.size) :
    client.receive network (Encoding.packet (.event event)) = client := by
  obtain ⟨error, herror⟩ := exists_received_eq_error hsendable hlong
  have hread : Packet.ofBytes? ((Encoding.packet (.event event)).take maxPacketSize) =
      .error error := herror
  rw [Client.receive, hsearching, hread]

end Searching

def servers : ClientEvent → List Endpoint
  | searchUpdate _ possibleMatches => possibleMatches.map (·.server)
  | matchFound server _ | queuePosition server _ _ | joinServer server _ _ | dequeued server _ =>
    [server]
  | failure _ => []

/-- What fits has texts and lists whose lengths can be written. -/
theorem isSendable_of_size_le (hservers : ∀ server ∈ event.servers, server.IsSendable)
    (hsize : event.size ≤ maxPacketSize) : event.IsSendable := by
  cases event with
  | searchUpdate attempts possibleMatches =>
      rw [size] at hsize
      have hlength := length_le_sum_map PossibleMatch.one_le_size possibleMatches
      refine ⟨Decoding.isCountable_of_le (by omega), ?_⟩
      intro possible hpossible
      have hserver := hservers possible.server (List.mem_map_of_mem hpossible)
      have hpart := List.le_sum_of_mem
        (List.mem_map_of_mem (f := PossibleMatch.size) hpossible)
      exact PossibleMatch.isSendable_of_size_le hserver (by omega)
  | matchFound server players =>
      rw [size] at hsize
      exact ⟨hservers server List.mem_cons_self, Decoding.isCountable_of_le (by omega)⟩
  | queuePosition server | joinServer server | dequeued server =>
      exact hservers server List.mem_cons_self
  | failure => trivial

theorem isHeard_iff_size_le (hservers : ∀ server ∈ event.servers, server.IsSendable) :
    event.IsHeard ↔ event.size ≤ maxPacketSize := by
  rw [isHeard_iff]
  exact and_iff_right_of_imp (isSendable_of_size_le hservers)

end ClientEvent

end Muster
