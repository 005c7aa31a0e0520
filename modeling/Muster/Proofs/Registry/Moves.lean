import Mathlib.Tactic.SplitIfs
import Muster.Registry.Basic

/-!
# Moves of players

A server takes a player who is on it already, and any other one as long as it has room.  A player
who is taken leaves the server before; one who is refused stays there, and neither server has
changed then.
-/

namespace Muster.GameServer

variable {player other : PlayerId} {source : Option GameServer} {destination server : GameServer}

theorem hasPlayer_iff : server.hasPlayer player ↔ player ∈ server.knownPlayers :=
  decide_eq_true_iff

/-- The player is on the server, or comes from elsewhere and finds room. -/
def Accepts (destination : GameServer) (player : PlayerId) (source : Option GameServer) : Prop :=
  player ∈ destination.knownPlayers ∨
    destination.isFull = false ∧ ∀ before ∈ source, before.address ≠ destination.address

/-- The server before is left, unless it is the one to which the player moves. -/
def leave (player : PlayerId) (destination : Endpoint) (server : GameServer) : GameServer :=
  if server.address = destination then server else server.removePlayer player

theorem addPlayer_of_mem (hplayer : player ∈ server.knownPlayers) :
    server.addPlayer player = server := by
  rw [addPlayer, PlayerSet.insert_of_mem hplayer]

theorem removePlayer_of_not_mem (hplayer : player ∉ server.knownPlayers) :
    server.removePlayer player = server := by
  rw [removePlayer, PlayerSet.erase_of_not_mem hplayer]

theorem addPlayer_removePlayer (hplayer : player ∈ server.knownPlayers) :
    (server.removePlayer player).addPlayer player = server := by
  rw [addPlayer, removePlayer, PlayerSet.insert_erase hplayer]

theorem seat?_eq (server : GameServer) (player : PlayerId) :
    server.seat? player =
      if player ∈ server.knownPlayers ∨ server.isFull = false then some (server.addPlayer player)
      else none := by
  by_cases hplayer : player ∈ server.knownPlayers
  · rw [seat?, if_pos (hasPlayer_iff.mpr hplayer), if_pos (Or.inl hplayer),
      addPlayer_of_mem hplayer]
  · rw [seat?, if_neg (mt hasPlayer_iff.mp hplayer)]
    cases server.isFull <;> simp [hplayer]

/-- A move that is accepted leaves the one server and enters the other. -/
theorem move_of_accepts (haccepts : destination.Accepts player source) :
    move player source destination =
      (source.map (leave player destination.address), destination.addPlayer player, true) := by
  cases source with
  | none =>
      have hseat : player ∈ destination.knownPlayers ∨ destination.isFull = false :=
        haccepts.imp_right And.left
      rw [move, seat?_eq, if_pos hseat]
      rfl
  | some before =>
      rw [Option.map_some, leave]
      by_cases haddress : before.address = destination.address
      · have hplayer : player ∈ destination.knownPlayers :=
          haccepts.resolve_right fun hroom => hroom.2 before rfl haddress
        rw [move, if_pos haddress, if_pos haddress, addPlayer_of_mem hplayer,
          hasPlayer_iff.mpr hplayer]
      · have hseat : player ∈ destination.knownPlayers ∨ destination.isFull = false :=
          haccepts.imp_right And.left
        rw [move, if_neg haddress, if_neg haddress, seat?_eq, if_pos hseat]

/-- The player who has left the server before is put back. -/
theorem move_of_not_accepts (hrefuses : ¬ destination.Accepts player source) :
    move player source destination = (source, destination, false) := by
  obtain ⟨hplayer, hroom⟩ := not_or.mp hrefuses
  cases source with
  | none =>
      have hseat : ¬ (player ∈ destination.knownPlayers ∨ destination.isFull = false) :=
        not_or.mpr ⟨hplayer, fun hfull => hroom ⟨hfull, fun _ hnone => nomatch hnone⟩⟩
      rw [move, seat?_eq, if_neg hseat]
  | some before =>
      by_cases haddress : before.address = destination.address
      · have habsent : destination.hasPlayer player = false :=
          Bool.eq_false_iff.mpr (mt hasPlayer_iff.mp hplayer)
        rw [move, if_pos haddress, habsent]
      · have hseat : ¬ (player ∈ destination.knownPlayers ∨ destination.isFull = false) := by
          refine not_or.mpr ⟨hplayer, fun hfull => hroom ⟨hfull, ?_⟩⟩
          rintro _ ⟨⟩
          exact haddress
        rw [move, if_neg haddress, seat?_eq, if_neg hseat]
        by_cases hbefore : player ∈ before.knownPlayers
        · simp only [if_pos (hasPlayer_iff.mpr hbefore), addPlayer_removePlayer hbefore]
        · simp only [if_neg (mt hasPlayer_iff.mp hbefore), removePlayer_of_not_mem hbefore]

/-- What a move of a player makes of the two servers. -/
structure IsExactMove (player : PlayerId) (source : Option GameServer) (destination : GameServer)
    (left : Option GameServer) (seated : GameServer) (isSeated : Bool) : Prop where
  isSeated_iff : isSeated = true ↔ destination.Accepts player source
  arrives : isSeated = true → player ∈ seated.knownPlayers
  departs : isSeated = true → ∀ after ∈ left, after.address ≠ seated.address →
    player ∉ after.knownPlayers
  /-- No other player is concerned. -/
  others : ∀ other ≠ player,
    (other ∈ seated.knownPlayers ↔ other ∈ destination.knownPlayers) ∧
    ∀ before ∈ source, ∀ after ∈ left,
      (other ∈ after.knownPlayers ↔ other ∈ before.knownPlayers)
  /-- A player who is refused leaves everything as it was. -/
  refused : isSeated = false → left = source ∧ seated = destination
  /-- Nobody is added where the latest info leaves no room, and nobody to the server before. -/
  capacity : ∀ info, destination.info = some info →
    info.value.maxClients.toNat ≤ destination.knownPlayers.size →
      seated.knownPlayers = destination.knownPlayers
  shrinks : ∀ before ∈ source, ∀ after ∈ left, ∀ other ∈ after.knownPlayers,
    other ∈ before.knownPlayers
  /-- Nothing but the players of the servers is changed. -/
  seated_eq : seated = { destination with knownPlayers := seated.knownPlayers }
  left_eq : ∃ players, left = source.map fun before => { before with knownPlayers := players }

theorem leave_eq (player : PlayerId) (destination : Endpoint) (server : GameServer) :
    leave player destination server =
      { server with knownPlayers := (leave player destination server).knownPlayers } := by
  rw [leave]
  split_ifs <;> rfl

theorem address_leave {address : Endpoint} :
    (leave player address server).address = server.address := by
  rw [leave_eq]

@[simp]
theorem mem_leave {address : Endpoint} : other ∈ (leave player address server).knownPlayers ↔
    other ∈ server.knownPlayers ∧ (other = player → server.address = address) := by
  rw [leave]
  split_ifs with haddress
  · simp [haddress]
  · simp [removePlayer, haddress]

@[simp]
theorem mem_addPlayer :
    other ∈ (server.addPlayer player).knownPlayers ↔ other = player ∨ other ∈ server.knownPlayers :=
  PlayerSet.mem_insert

theorem isFull_of_maxClients_le {info : Stamped ServerInfo} (hinfo : server.info = some info)
    (hfull : info.value.maxClients.toNat ≤ server.knownPlayers.size) : server.isFull = true := by
  rw [isFull, hinfo, Option.any_some, decide_eq_true hfull]

theorem isExactMove_of_accepts (haccepts : destination.Accepts player source) :
    IsExactMove player source destination (source.map (leave player destination.address))
      (destination.addPlayer player) true where
  isSeated_iff := iff_of_true rfl haccepts
  arrives := fun _ => mem_addPlayer.mpr (Or.inl rfl)
  departs := by
    intro _ after hafter haddress hplayer
    obtain ⟨before, -, rfl⟩ := Option.map_eq_some_iff.mp hafter
    rw [address_leave] at haddress
    exact haddress ((mem_leave.mp hplayer).2 rfl)
  others := by
    intro other hother
    refine ⟨by simp [hother], ?_⟩
    rintro before rfl _ ⟨⟩
    simp [hother]
  refused := fun hrefused => absurd hrefused (by decide)
  capacity := by
    intro info hinfo hfull
    have hplayer : player ∈ destination.knownPlayers := by
      refine haccepts.resolve_right ?_
      rintro ⟨hroom, -⟩
      rw [isFull_of_maxClients_le hinfo hfull] at hroom
      exact absurd hroom (by decide)
    rw [addPlayer_of_mem hplayer]
  shrinks := by
    rintro before rfl _ ⟨⟩ other hother
    exact (mem_leave.mp hother).1
  seated_eq := rfl
  left_eq := by
    cases source with
    | none => exact ⟨.empty, rfl⟩
    | some before =>
        exact ⟨_, congrArg some (leave_eq player destination.address before)⟩

/-- A move that is refused changes nothing. -/
theorem isExactMove_of_not_accepts (hrefuses : ¬ destination.Accepts player source) :
    IsExactMove player source destination source destination false where
  isSeated_iff := iff_of_false (by decide) hrefuses
  arrives := fun hseated => absurd hseated (by decide)
  departs := fun hseated => absurd hseated (by decide)
  others := by
    intro other _
    refine ⟨Iff.rfl, ?_⟩
    rintro before rfl _ ⟨⟩
    exact Iff.rfl
  refused := fun _ => ⟨rfl, rfl⟩
  capacity := fun _ _ _ => rfl
  shrinks := by
    rintro before rfl _ ⟨⟩ other hother
    exact hother
  seated_eq := rfl
  left_eq := by
    cases source with
    | none => exact ⟨.empty, rfl⟩
    | some before => exact ⟨before.knownPlayers, rfl⟩

/-- Every move is exact, whatever the servers and wherever the player is. -/
theorem isExactMove_move (player : PlayerId) (source : Option GameServer)
    (destination : GameServer) :
    let moved := move player source destination
    IsExactMove player source destination moved.1 moved.2.1 moved.2.2 := by
  intro moved
  by_cases haccepts : destination.Accepts player source
  · have hmoved : moved = _ := move_of_accepts haccepts
    rw [hmoved]
    exact isExactMove_of_accepts haccepts
  · have hmoved : moved = _ := move_of_not_accepts haccepts
    rw [hmoved]
    exact isExactMove_of_not_accepts haccepts

end Muster.GameServer
