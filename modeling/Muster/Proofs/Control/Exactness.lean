import Muster.Proofs.Control.Reading

/-!
# Exactness of the packet format

Every reader of the format is exact, from the addresses up to whole packets.  What cannot be
written of a packet is the zone of an endpoint, and a text or list too long for its length to be
written.
-/

namespace Muster

/-! ## What can be written -/

/-- The text is not too long for its length to be written. -/
def IsSendableText (text : String) : Prop :=
  Decoding.IsCountable (Text.Utf8.encode text.toList).length

instance (text : String) : Decidable (IsSendableText text) :=
  inferInstanceAs (Decidable (Decoding.IsCountable _))

/-- The endpoint is in no zone, which packets do not tell. -/
def Endpoint.IsSendable (endpoint : Endpoint) : Prop :=
  endpoint.zone = 0

instance (endpoint : Endpoint) : Decidable endpoint.IsSendable :=
  inferInstanceAs (Decidable (endpoint.zone = 0))

def PreferredServer.IsSendable (server : PreferredServer) : Prop :=
  server.address.IsSendable

instance (server : PreferredServer) : Decidable server.IsSendable :=
  inferInstanceAs (Decidable server.address.IsSendable)

def PossibleMatch.IsSendable (possible : PossibleMatch) : Prop :=
  possible.server.IsSendable ∧ IsSendableText possible.hostname ∧
    Decoding.IsCountable possible.players.length ∧
    Decoding.IsCountable possible.blockedBy.length

instance (possible : PossibleMatch) : Decidable possible.IsSendable :=
  inferInstanceAs (Decidable (_ ∧ _ ∧ _ ∧ _))

def ClientEvent.IsSendable : ClientEvent → Prop
  | searchUpdate _ possibleMatches =>
    Decoding.IsCountable possibleMatches.length ∧
      ∀ possible ∈ possibleMatches, possible.IsSendable
  | matchFound server players => server.IsSendable ∧ Decoding.IsCountable players.length
  | queuePosition server _ _ => server.IsSendable
  | joinServer server _ _ => server.IsSendable
  | dequeued server _ => server.IsSendable
  | failure _ => True

instance : DecidablePred ClientEvent.IsSendable
  | .searchUpdate .. => inferInstanceAs (Decidable (_ ∧ _))
  | .matchFound .. => inferInstanceAs (Decidable (_ ∧ _))
  | .queuePosition server _ _ => inferInstanceAs (Decidable server.IsSendable)
  | .joinServer server _ _ => inferInstanceAs (Decidable server.IsSendable)
  | .dequeued server _ => inferInstanceAs (Decidable server.IsSendable)
  | .failure _ => inferInstanceAs (Decidable True)

/-- Endpoints are in no zone, and texts and lists are not too long. -/
def Packet.IsSendable : Packet → Prop
  | hello _ _ name => IsSendableText name
  | enterMatchmaking _ servers | updatePreferences _ servers =>
    Decoding.IsCountable servers.length ∧ ∀ server ∈ servers, server.IsSendable
  | joinAck server _ => server.IsSendable
  | rejected reason => IsSendableText reason
  | .event notice => notice.IsSendable
  | leaveMatchmaking | heartbeat _ | disconnect | welcome _ => True

instance : DecidablePred Packet.IsSendable
  | .hello _ _ name => inferInstanceAs (Decidable (IsSendableText name))
  | .enterMatchmaking .. => inferInstanceAs (Decidable (_ ∧ _))
  | .updatePreferences .. => inferInstanceAs (Decidable (_ ∧ _))
  | .leaveMatchmaking => inferInstanceAs (Decidable True)
  | .joinAck server _ => inferInstanceAs (Decidable server.IsSendable)
  | .heartbeat _ => inferInstanceAs (Decidable True)
  | .disconnect => inferInstanceAs (Decidable True)
  | .welcome _ => inferInstanceAs (Decidable True)
  | .rejected reason => inferInstanceAs (Decidable (IsSendableText reason))
  | .event notice => inferInstanceAs (Decidable notice.IsSendable)

namespace Decoding

/-! ## Endpoints -/

theorem isExact_ip : IsExact ip Encoding.ip fun _ => True := by
  intro bytes value rest
  simp only [ip, choice_eq_ok_iff, true_and]
  constructor
  · rintro ⟨found, middle, -, rfl, hvalue⟩
    split at hvalue
    case h_1 =>
      simp only [bind_eq_ok_iff, pure_eq_ok_iff, isExact_byte _ _ _, true_and] at hvalue
      obtain ⟨a, _, rfl, b, _, rfl, c, _, rfl, d, _, rfl, rfl, rfl⟩ := hvalue
      rfl
    case h_2 =>
      simp only [bind_eq_ok_iff, pure_eq_ok_iff, isExact_group _ _ _, true_and] at hvalue
      obtain ⟨g₀, _, rfl, g₁, _, rfl, g₂, _, rfl, g₃, _, rfl, g₄, _, rfl, g₅, _, rfl, g₆, _, rfl,
        g₇, _, rfl, rfl, rfl⟩ := hvalue
      simp only [Encoding.ip, List.append_assoc]
    case h_3 => exact absurd hvalue refuse_ne_ok
  · rintro rfl
    cases value with
    | v4 a b c d =>
        refine ⟨0, _, by decide, rfl, ?_⟩
        simp only [bind_eq_ok_iff, pure_eq_ok_iff, isExact_byte _ _ _, true_and]
        exact ⟨a, _, rfl, b, _, rfl, c, _, rfl, d, _, rfl, rfl, rfl⟩
    | v6 g₀ g₁ g₂ g₃ g₄ g₅ g₆ g₇ =>
        refine ⟨1, _, by decide, rfl, ?_⟩
        simp only [bind_eq_ok_iff, pure_eq_ok_iff, isExact_group _ _ _, true_and]
        exact ⟨g₀, _, rfl, g₁, _, rfl, g₂, _, rfl, g₃, _, rfl, g₄, _, rfl, g₅, _, rfl, g₆, _, rfl,
          g₇, _, rfl, rfl, rfl⟩

theorem isExact_endpoint : IsExact endpoint Encoding.endpoint Endpoint.IsSendable := by
  intro bytes value rest
  simp only [endpoint, bind_eq_ok_iff, pure_eq_ok_iff, isExact_ip _ _ _, isExact_word16 _ _ _,
    true_and, Encoding.endpoint, List.append_assoc]
  constructor
  · rintro ⟨ip, _, rfl, port, _, rfl, rfl, rfl⟩
    exact ⟨rfl, rfl⟩
  · rintro ⟨hzone, rfl⟩
    obtain ⟨ip, port, zone⟩ := value
    obtain rfl : zone = 0 := hzone
    exact ⟨ip, _, rfl, port, rest, rfl, rfl, rfl⟩

theorem isExact_preferredServer :
    IsExact preferredServer Encoding.preferredServer PreferredServer.IsSendable := by
  intro bytes value rest
  simp only [preferredServer, bind_eq_ok_iff, pure_eq_ok_iff, isExact_endpoint _ _ _,
    isExact_word32 _ _ _, true_and, Encoding.preferredServer, List.append_assoc]
  constructor
  · rintro ⟨address, _, ⟨haddress, rfl⟩, ping, _, rfl, rfl, rfl⟩
    exact ⟨haddress, rfl⟩
  · rintro ⟨haddress, rfl⟩
    exact ⟨value.address, _, ⟨haddress, rfl⟩, value.ping, rest, rfl, rfl, rfl⟩

/-! ## Searches -/

theorem isExact_criteria : IsExact criteria Encoding.criteria fun _ => True := by
  intro bytes value rest
  simp only [criteria, bind_eq_ok_iff, pure_eq_ok_iff, isExact_word32 _ _ _,
    isExact_word64 _ _ _, true_and, Encoding.criteria, List.append_assoc]
  constructor
  · rintro ⟨minPlayers, _, rfl, maxPing, _, rfl, maxScore, _, rfl, maxPlayers, _, rfl, rfl, rfl⟩
    simp only [UInt32.toUInt32_toInt32, UInt64.toUInt64_toInt64]
  · rintro rfl
    exact ⟨value.minPlayers, _, rfl, value.maxPing.toUInt32, _, rfl, value.maxScore.toUInt64, _,
      rfl, value.maxPlayers.toUInt32, rest, rfl, rfl, rfl⟩

theorem isExact_ineligibility :
    IsExact ineligibility Encoding.ineligibility fun _ => True := by
  intro bytes value rest
  simp only [ineligibility, choice_eq_ok_iff, true_and]
  constructor
  · rintro ⟨found, middle, -, rfl, hvalue⟩
    split at hvalue
    all_goals simp only [bind_eq_ok_iff, pure_eq_ok_iff, isExact_word32 _ _ _,
      isExact_word64 _ _ _, true_and, unknownChoice_ne_ok] at hvalue
    case h_1 =>
      obtain ⟨rfl, rfl⟩ := hvalue
      rfl
    case h_4 =>
      obtain ⟨score, _, rfl, max, _, rfl, rfl, rfl⟩ := hvalue
      simp only [Encoding.ineligibility, UInt64.toUInt64_toInt64, List.append_assoc]
    all_goals
      obtain ⟨first, _, rfl, second, _, rfl, rfl, rfl⟩ := hvalue
      rfl
  · rintro rfl
    cases value with
    | notPreferred => exact ⟨0, _, by decide, rfl, pure_eq_ok_iff.mpr ⟨rfl, rfl⟩⟩
    | waitingForPlayers current required =>
        refine ⟨1, _, by decide, rfl, ?_⟩
        simp only [bind_eq_ok_iff, pure_eq_ok_iff, isExact_word32 _ _ _, true_and]
        exact ⟨current, _, rfl, required, rest, rfl, rfl, rfl⟩
    | pingTooHigh ping max =>
        refine ⟨2, _, by decide, rfl, ?_⟩
        simp only [bind_eq_ok_iff, pure_eq_ok_iff, isExact_word32 _ _ _, true_and]
        exact ⟨ping, _, rfl, max, rest, rfl, rfl, rfl⟩
    | scoreTooHigh score max =>
        refine ⟨3, _, by decide, rfl, ?_⟩
        simp only [bind_eq_ok_iff, pure_eq_ok_iff, isExact_word64 _ _ _, true_and]
        exact ⟨score.toUInt64, _, rfl, max.toUInt64, rest, rfl, rfl, rfl⟩
    | tooManyPlayers current max =>
        refine ⟨4, _, by decide, rfl, ?_⟩
        simp only [bind_eq_ok_iff, pure_eq_ok_iff, isExact_word32 _ _ _, true_and]
        exact ⟨current, _, rfl, max, rest, rfl, rfl, rfl⟩

theorem isExact_possibleMatch :
    IsExact possibleMatch Encoding.possibleMatch PossibleMatch.IsSendable := by
  intro bytes value rest
  simp only [possibleMatch, bind_eq_ok_iff, pure_eq_ok_iff, isExact_endpoint _ _ _,
    isExact_text _ _ _, isExact_word64 _ _ _, isExact_word64.list _ _ _,
    isExact_ineligibility.list _ _ _, true_and, implies_true, and_true, Encoding.possibleMatch,
    List.append_assoc]
  constructor
  · rintro ⟨server, _, ⟨hserver, rfl⟩, hostname, _, ⟨hhostname, rfl⟩, quality, _, rfl, players, _,
      ⟨hplayers, rfl⟩, blockedBy, _, ⟨hblockedBy, rfl⟩, rfl, rfl⟩
    exact ⟨⟨hserver, hhostname, hplayers, hblockedBy⟩, rfl⟩
  · rintro ⟨⟨hserver, hhostname, hplayers, hblockedBy⟩, rfl⟩
    exact ⟨value.server, _, ⟨hserver, rfl⟩, value.hostname, _, ⟨hhostname, rfl⟩,
      value.quality.bits, _, rfl, value.players, _, ⟨hplayers, rfl⟩, value.blockedBy, rest,
      ⟨hblockedBy, rfl⟩, rfl, rfl⟩

/-! ## Reasons and results -/

theorem isExact_dequeueReason :
    IsExact dequeueReason Encoding.dequeueReason fun _ => True := by
  intro bytes value rest
  simp only [dequeueReason, choice_eq_ok_iff, true_and]
  constructor
  · rintro ⟨found, middle, -, rfl, hvalue⟩
    split at hvalue
    case h_8 => exact absurd hvalue unknownChoice_ne_ok
    all_goals
      obtain ⟨rfl, rfl⟩ := pure_eq_ok_iff.mp hvalue
      rfl
  · rintro rfl
    cases value <;> exact ⟨_, _, by decide, rfl, pure_eq_ok_iff.mpr ⟨rfl, rfl⟩⟩

theorem isExact_joinResult : IsExact joinResult Encoding.joinResult fun _ => True := by
  intro bytes value rest
  simp only [joinResult, choice_eq_ok_iff, true_and]
  constructor
  · rintro ⟨found, middle, -, rfl, hvalue⟩
    split at hvalue
    case h_2 =>
      simp only [bind_eq_ok_iff, pure_eq_ok_iff, isExact_bool _ _ _, true_and] at hvalue
      obtain ⟨serverFull, _, rfl, rfl, rfl⟩ := hvalue
      rfl
    case h_4 => exact absurd hvalue unknownChoice_ne_ok
    all_goals
      obtain ⟨rfl, rfl⟩ := pure_eq_ok_iff.mp hvalue
      rfl
  · rintro rfl
    cases value with
    | joined => exact ⟨0, _, by decide, rfl, pure_eq_ok_iff.mpr ⟨rfl, rfl⟩⟩
    | failed serverFull =>
        refine ⟨1, _, by decide, rfl, ?_⟩
        simp only [bind_eq_ok_iff, pure_eq_ok_iff, isExact_bool _ _ _, true_and]
        exact ⟨serverFull, _, rfl, rfl, rfl⟩
    | rejected => exact ⟨2, _, by decide, rfl, pure_eq_ok_iff.mpr ⟨rfl, rfl⟩⟩

theorem isExact_matchmakingError :
    IsExact matchmakingError Encoding.matchmakingError fun _ => True := by
  intro bytes value rest
  simp only [matchmakingError, choice_eq_ok_iff, true_and]
  constructor
  · rintro ⟨found, middle, -, rfl, hvalue⟩
    split at hvalue
    case h_6 => exact absurd hvalue unknownChoice_ne_ok
    all_goals
      obtain ⟨rfl, rfl⟩ := pure_eq_ok_iff.mp hvalue
      rfl
  · rintro rfl
    cases value <;> exact ⟨_, _, by decide, rfl, pure_eq_ok_iff.mpr ⟨rfl, rfl⟩⟩

/-! ## Events and packets -/

theorem isExact_clientEvent :
    IsExact clientEvent Encoding.clientEvent ClientEvent.IsSendable := by
  intro bytes value rest
  simp only [clientEvent, choice_eq_ok_iff]
  constructor
  · rintro ⟨found, middle, -, rfl, hvalue⟩
    split at hvalue
    all_goals simp only [bind_eq_ok_iff, pure_eq_ok_iff, isExact_endpoint _ _ _,
      isExact_word32 _ _ _, isExact_word64 _ _ _, isExact_word64.list _ _ _,
      isExact_possibleMatch.list _ _ _, isExact_dequeueReason _ _ _,
      isExact_matchmakingError _ _ _, true_and, implies_true, and_true,
      unknownChoice_ne_ok] at hvalue
    case h_1 =>
      obtain ⟨attempts, _, rfl, possibleMatches, _, ⟨hmatches, rfl⟩, rfl, rfl⟩ := hvalue
      exact ⟨hmatches, by simp only [Encoding.clientEvent, List.append_assoc]⟩
    case h_2 =>
      obtain ⟨server, _, ⟨hserver, rfl⟩, players, _, ⟨hplayers, rfl⟩, rfl, rfl⟩ := hvalue
      exact ⟨⟨hserver, hplayers⟩, by simp only [Encoding.clientEvent, List.append_assoc]⟩
    case h_3 =>
      obtain ⟨server, _, ⟨hserver, rfl⟩, position, _, rfl, queueLength, _, rfl, rfl, rfl⟩ := hvalue
      exact ⟨hserver, by simp only [Encoding.clientEvent, List.append_assoc]⟩
    case h_4 =>
      obtain ⟨server, _, ⟨hserver, rfl⟩, attempt, _, rfl, timeout, _, rfl, rfl, rfl⟩ := hvalue
      exact ⟨hserver, by simp only [Encoding.clientEvent, List.append_assoc]⟩
    case h_5 =>
      obtain ⟨server, _, ⟨hserver, rfl⟩, reason, _, rfl, rfl, rfl⟩ := hvalue
      exact ⟨hserver, by simp only [Encoding.clientEvent, List.append_assoc]⟩
    case h_6 =>
      obtain ⟨error, _, rfl, rfl, rfl⟩ := hvalue
      exact ⟨trivial, rfl⟩
  · rintro ⟨hvalue, rfl⟩
    cases value with
    | searchUpdate attempts possibleMatches =>
        refine ⟨0, _, by decide, rfl, ?_⟩
        simp only [bind_eq_ok_iff, pure_eq_ok_iff, isExact_word32 _ _ _,
          isExact_possibleMatch.list _ _ _, true_and]
        exact ⟨attempts, _, rfl, possibleMatches, rest, ⟨hvalue, rfl⟩, rfl, rfl⟩
    | matchFound server players =>
        simp only [Encoding.clientEvent, List.append_assoc]
        refine ⟨1, _, by decide, rfl, ?_⟩
        simp only [bind_eq_ok_iff, pure_eq_ok_iff, isExact_endpoint _ _ _,
          isExact_word64.list _ _ _, implies_true, and_true]
        exact ⟨server, _, ⟨hvalue.1, rfl⟩, players, rest, ⟨hvalue.2, rfl⟩, rfl, rfl⟩
    | queuePosition server position queueLength =>
        simp only [Encoding.clientEvent, List.append_assoc]
        refine ⟨2, _, by decide, rfl, ?_⟩
        simp only [bind_eq_ok_iff, pure_eq_ok_iff, isExact_endpoint _ _ _, isExact_word64 _ _ _,
          true_and]
        exact ⟨server, _, ⟨hvalue, rfl⟩, position, _, rfl, queueLength, rest, rfl, rfl, rfl⟩
    | joinServer server attempt timeout =>
        simp only [Encoding.clientEvent, List.append_assoc]
        refine ⟨3, _, by decide, rfl, ?_⟩
        simp only [bind_eq_ok_iff, pure_eq_ok_iff, isExact_endpoint _ _ _, isExact_word32 _ _ _,
          isExact_word64 _ _ _, true_and]
        exact ⟨server, _, ⟨hvalue, rfl⟩, attempt, _, rfl, timeout, rest, rfl, rfl, rfl⟩
    | dequeued server reason =>
        simp only [Encoding.clientEvent, List.append_assoc]
        refine ⟨4, _, by decide, rfl, ?_⟩
        simp only [bind_eq_ok_iff, pure_eq_ok_iff, isExact_endpoint _ _ _,
          isExact_dequeueReason _ _ _, true_and]
        exact ⟨server, _, ⟨hvalue, rfl⟩, reason, rest, rfl, rfl, rfl⟩
    | failure error =>
        refine ⟨5, _, by decide, rfl, ?_⟩
        simp only [bind_eq_ok_iff, pure_eq_ok_iff, isExact_matchmakingError _ _ _, true_and]
        exact ⟨error, rest, rfl, rfl, rfl⟩

theorem isExact_packet : IsExact packet Encoding.packet Packet.IsSendable := by
  intro bytes value rest
  simp only [packet, choice_eq_ok_iff]
  constructor
  · rintro ⟨found, middle, -, rfl, hvalue⟩
    split at hvalue
    all_goals simp only [bind_eq_ok_iff, pure_eq_ok_iff, isExact_endpoint _ _ _,
      isExact_word32 _ _ _, isExact_word64 _ _ _, isExact_text _ _ _, isExact_criteria _ _ _,
      isExact_preferredServer.list _ _ _, isExact_joinResult _ _ _, isExact_clientEvent _ _ _,
      true_and, unknownChoice_ne_ok] at hvalue
    case h_1 =>
      obtain ⟨version, _, rfl, player, _, rfl, name, _, ⟨hname, rfl⟩, rfl, rfl⟩ := hvalue
      exact ⟨hname, by simp only [Encoding.packet, List.append_assoc]⟩
    case h_2 | h_3 =>
      obtain ⟨search, _, rfl, servers, _, ⟨hservers, rfl⟩, rfl, rfl⟩ := hvalue
      exact ⟨hservers, by simp only [Encoding.packet, List.append_assoc]⟩
    case h_4 | h_7 =>
      obtain ⟨rfl, rfl⟩ := hvalue
      exact ⟨trivial, rfl⟩
    case h_5 =>
      obtain ⟨server, _, ⟨hserver, rfl⟩, result, _, rfl, rfl, rfl⟩ := hvalue
      exact ⟨hserver, by simp only [Encoding.packet, List.append_assoc]⟩
    case h_6 | h_8 =>
      obtain ⟨number, _, rfl, rfl, rfl⟩ := hvalue
      exact ⟨trivial, rfl⟩
    case h_9 | h_10 =>
      obtain ⟨content, _, ⟨hcontent, rfl⟩, rfl, rfl⟩ := hvalue
      exact ⟨hcontent, by simp only [Encoding.packet, List.append_assoc]⟩
  · rintro ⟨hvalue, rfl⟩
    cases value with
    | hello version player name =>
        simp only [Encoding.packet, List.append_assoc]
        refine ⟨0, _, by decide, rfl, ?_⟩
        simp only [bind_eq_ok_iff, pure_eq_ok_iff, isExact_word32 _ _ _, isExact_word64 _ _ _,
          isExact_text _ _ _, true_and]
        exact ⟨version, _, rfl, player, _, rfl, name, rest, ⟨hvalue, rfl⟩, rfl, rfl⟩
    | enterMatchmaking search servers =>
        simp only [Encoding.packet, List.append_assoc]
        refine ⟨1, _, by decide, rfl, ?_⟩
        simp only [bind_eq_ok_iff, pure_eq_ok_iff, isExact_criteria _ _ _,
          isExact_preferredServer.list _ _ _, true_and]
        exact ⟨search, _, rfl, servers, rest, ⟨hvalue, rfl⟩, rfl, rfl⟩
    | updatePreferences search servers =>
        simp only [Encoding.packet, List.append_assoc]
        refine ⟨2, _, by decide, rfl, ?_⟩
        simp only [bind_eq_ok_iff, pure_eq_ok_iff, isExact_criteria _ _ _,
          isExact_preferredServer.list _ _ _, true_and]
        exact ⟨search, _, rfl, servers, rest, ⟨hvalue, rfl⟩, rfl, rfl⟩
    | leaveMatchmaking => exact ⟨3, _, by decide, rfl, pure_eq_ok_iff.mpr ⟨rfl, rfl⟩⟩
    | joinAck server result =>
        simp only [Encoding.packet, List.append_assoc]
        refine ⟨4, _, by decide, rfl, ?_⟩
        simp only [bind_eq_ok_iff, pure_eq_ok_iff, isExact_endpoint _ _ _,
          isExact_joinResult _ _ _, true_and]
        exact ⟨server, _, ⟨hvalue, rfl⟩, result, rest, rfl, rfl, rfl⟩
    | heartbeat timestamp =>
        refine ⟨5, _, by decide, rfl, ?_⟩
        simp only [bind_eq_ok_iff, pure_eq_ok_iff, isExact_word64 _ _ _, true_and]
        exact ⟨timestamp, rest, rfl, rfl, rfl⟩
    | disconnect => exact ⟨6, _, by decide, rfl, pure_eq_ok_iff.mpr ⟨rfl, rfl⟩⟩
    | welcome player =>
        refine ⟨7, _, by decide, rfl, ?_⟩
        simp only [bind_eq_ok_iff, pure_eq_ok_iff, isExact_word64 _ _ _, true_and]
        exact ⟨player, rest, rfl, rfl, rfl⟩
    | rejected reason =>
        simp only [Encoding.packet, List.append_assoc]
        refine ⟨8, _, by decide, rfl, ?_⟩
        simp only [bind_eq_ok_iff, pure_eq_ok_iff, isExact_text _ _ _]
        exact ⟨reason, rest, ⟨hvalue, rfl⟩, rfl, rfl⟩
    | event notice =>
        simp only [Encoding.packet, List.append_assoc]
        refine ⟨9, _, by decide, rfl, ?_⟩
        simp only [bind_eq_ok_iff, pure_eq_ok_iff, isExact_clientEvent _ _ _]
        exact ⟨notice, rest, ⟨hvalue, rfl⟩, rfl, rfl⟩

end Decoding

namespace Packet

theorem ofBytes?_eq_ok_iff {bytes : List UInt8} {packet : Packet} :
    ofBytes? bytes = .ok packet ↔ ∃ rest, Decoding.packet bytes = .ok (packet, rest) := by
  rw [ofBytes?]
  cases Decoding.packet bytes with
  | error error => simp
  | ok result => simp [Prod.ext_iff]

/-- Bytes are read as a packet exactly where they begin with its encoding.  So every packet is read
back, whatever follows it; the encodings of different packets are different, and none begins
another one; and the bytes that are taken for a packet are always the same. -/
theorem encoding_is_exact :
    (∀ bytes packet, ofBytes? bytes = .ok packet ↔
      packet.IsSendable ∧ Encoding.packet packet <+: bytes) ∧
    (∀ packet : Packet, packet.IsSendable → ∀ rest,
      ofBytes? (Encoding.packet packet ++ rest) = .ok packet) ∧
    (∀ left right : Packet, left.IsSendable → right.IsSendable →
      Encoding.packet left <+: Encoding.packet right → left = right) ∧
    ∀ packet front other rest others, Decoding.packet (front ++ rest) = .ok (packet, rest) →
      Decoding.packet (other ++ others) = .ok (packet, others) → front = other := by
  refine ⟨?_, ?_, ?_, ?_⟩
  · intro bytes packet
    rw [ofBytes?_eq_ok_iff]
    exact Decoding.isExact_packet.isPrefix_iff
  · intro packet hpacket rest
    exact ofBytes?_eq_ok_iff.mpr ⟨rest, Decoding.isExact_packet.read_write hpacket rest⟩
  · intro left right hleft hright hstarts
    exact Decoding.isExact_packet.eq_of_prefix hleft hright hstarts
  · intro packet front other rest others hfront hother
    exact Decoding.isExact_packet.front_unique hfront hother

/-- A hint about a server with a long address and a name outside of ASCII comes back from its
bytes. -/
theorem encoding_is_exact_of_hint :
    IsSendable (.event (.searchUpdate 2 [⟨⟨.v6 0x2001 0xDB8 0 0 0 0 0 1, 28960, 0⟩, "über",
      ⟨0x409F400000000000⟩, [7, 9], [.scoreTooHigh 4000 3000, .notPreferred]⟩])) ∧
    ofBytes? (Encoding.packet (.event (.searchUpdate 2 [⟨⟨.v6 0x2001 0xDB8 0 0 0 0 0 1, 28960, 0⟩,
      "über", ⟨0x409F400000000000⟩, [7, 9], [.scoreTooHigh 4000 3000, .notPreferred]⟩])) ++
        [0xFF]) =
      .ok (.event (.searchUpdate 2 [⟨⟨.v6 0x2001 0xDB8 0 0 0 0 0 1, 28960, 0⟩, "über",
        ⟨0x409F400000000000⟩, [7, 9], [.scoreTooHigh 4000 3000, .notPreferred]⟩])) ∧
    (IsSendable .disconnect ∧ Encoding.packet .disconnect <+: [6, 0, 0, 0, 1]) ∧
    ¬ Encoding.packet (.heartbeat 6) <+: Encoding.packet (.welcome 6) ∧
    Encoding.packet .disconnect = [6, 0, 0, 0] := by
  obtain ⟨hiff, hread, hdistinct, hfront⟩ := encoding_is_exact
  have hhint : IsSendable (.event (.searchUpdate 2 [⟨⟨.v6 0x2001 0xDB8 0 0 0 0 0 1, 28960, 0⟩,
      "über", ⟨0x409F400000000000⟩, [7, 9], [.scoreTooHigh 4000 3000, .notPreferred]⟩])) := by
    decide
  refine ⟨hhint, hread _ hhint [0xFF], (hiff _ _).mp rfl, ?_, ?_⟩
  · intro hstarts
    exact nomatch hdistinct (.heartbeat 6) (.welcome 6) trivial trivial hstarts
  · exact hfront .disconnect _ _ [1] [] rfl rfl

end Packet

end Muster
