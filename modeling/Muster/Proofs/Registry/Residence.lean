import Muster.Proofs.Registry.Capacity
import Muster.Proofs.Registry.Queues

/-!
# Where players are

A player who joins a server is moved there from the server on which the player was.  As long as
joins are tracked that way no player is known on two servers, whatever else happens to the servers.
-/

namespace Muster.Registry

variable {registry other : Registry} {player resident : PlayerId} {server : GameServer}
  {address destination : Endpoint} {source : Option Endpoint}

/-- The player is known on the server at the address. -/
def Houses (registry : Registry) (address : Endpoint) (player : PlayerId) : Prop :=
  ∃ server, registry.get? address = some server ∧ player ∈ server.knownPlayers

/-- No player is known on two servers. -/
def IsExclusive (registry : Registry) : Prop :=
  ∀ player, ∀ first ∈ registry.servers, ∀ second ∈ registry.servers,
    player ∈ first.knownPlayers → player ∈ second.knownPlayers → first = second

theorem houses_iff (hget : registry.get? address = some server) :
    registry.Houses address player ↔ player ∈ server.knownPlayers := by
  rw [Houses, hget]
  constructor
  · rintro ⟨_, ⟨⟩, hplayer⟩
    exact hplayer
  · intro hplayer
    exact ⟨server, rfl, hplayer⟩

theorem houses_of_mem (hkeyed : registry.IsKeyed) (hserver : server ∈ registry.servers)
    (hplayer : player ∈ server.knownPlayers) : registry.Houses server.address player :=
  ⟨server, (get?_eq_some_iff hkeyed).mpr ⟨hserver, rfl⟩, hplayer⟩

/-- Exclusivity says that nobody lives at two addresses. -/
theorem isExclusive_iff (hkeyed : registry.IsKeyed) :
    registry.IsExclusive ↔ ∀ player first second,
      registry.Houses first player → registry.Houses second player → first = second := by
  constructor
  · rintro hexclusive player first second ⟨one, hone, hplayerOne⟩ ⟨two, htwo, hplayerTwo⟩
    obtain ⟨hmemberOne, rfl⟩ := mem_of_get? hone
    obtain ⟨hmemberTwo, rfl⟩ := mem_of_get? htwo
    rw [hexclusive player one hmemberOne two hmemberTwo hplayerOne hplayerTwo]
  · intro hhouses player first hfirst second hsecond hplayerFirst hplayerSecond
    have haddress := hhouses player _ _ (houses_of_mem hkeyed hfirst hplayerFirst)
      (houses_of_mem hkeyed hsecond hplayerSecond)
    exact List.inj_on_of_nodup_map hkeyed hfirst hsecond haddress

/-- An event that adds nobody to a server leaves nobody on two. -/
theorem IsExclusive.of_houses (hexclusive : registry.IsExclusive) (hkeyed : registry.IsKeyed)
    (hother : other.IsKeyed)
    (hhouses : ∀ address player, other.Houses address player → registry.Houses address player) :
    other.IsExclusive := by
  rw [isExclusive_iff hkeyed] at hexclusive
  rw [isExclusive_iff hother]
  intro player first second hfirst hsecond
  exact hexclusive player first second (hhouses first player hfirst)
    (hhouses second player hsecond)

/-! ## Moves -/

theorem get?_put (registry : Registry) (server : GameServer)
    (hknown : (registry.get? server.address).isSome) (address : Endpoint) :
    (registry.put server).get? address =
      if address = server.address then some server else registry.get? address := by
  have hput : (registry.put server).get? address = (registry.get? address).map fun known =>
      if known.address = server.address then server else known :=
    get?_modify registry (fun _ _ => rfl) address
  rw [hput]
  split_ifs with haddress
  · obtain ⟨known, hget⟩ := Option.isSome_iff_exists.mp hknown
    rw [haddress, hget, Option.map_some, if_pos (mem_of_get? hget).2]
  · cases hget : registry.get? address with
    | none => rfl
    | some known =>
        have hother : known.address ≠ server.address := by
          rw [(mem_of_get? hget).2]
          exact haddress
        rw [Option.map_some, if_neg hother]

/-- A move changes the two servers that it names and no other one. -/
theorem get?_movePlayer (hget : registry.get? destination = some server) (player : PlayerId)
    (source : Option Endpoint) :
    let moved := GameServer.move player (source.bind registry.get?) server
    (registry.movePlayer player source destination).2 = moved.2.2 ∧
    (registry.movePlayer player source destination).1.get? destination = some moved.2.1 ∧
    ∀ address ≠ destination, (registry.movePlayer player source destination).1.get? address =
      if source = some address then moved.1 else registry.get? address := by
  intro moved
  have hmoved : registry.movePlayer player source destination =
      ((moved.1.elim registry registry.put).put moved.2.1, moved.2.2) := by
    rw [movePlayer, hget]
  have hmove := GameServer.isExactMove_move player (source.bind registry.get?) server
  have hseated : moved.2.1.address = destination := by
    rw [hmove.seated_eq]
    exact (mem_of_get? hget).2
  obtain ⟨players, hplayers⟩ := hmove.left_eq
  have hleft : ∀ address, (moved.1.elim registry registry.put).get? address =
      if source = some address then moved.1 else registry.get? address := by
    intro address
    rw [hplayers]
    cases hsource : source.bind registry.get? with
    | none =>
        split_ifs with haddress
        · rw [haddress, Option.bind_some] at hsource
          exact hsource
        · rfl
    | some before =>
        obtain ⟨earlier, rfl, hbefore⟩ := Option.bind_eq_some_iff.mp hsource
        obtain rfl := (mem_of_get? hbefore).2
        have hput := get?_put registry { before with knownPlayers := players }
          (by rw [hbefore, Option.isSome_some]) address
        rw [Option.map_some, Option.elim_some, hput]
        simp only [Option.some.injEq, eq_comm]
  have hknown : ((moved.1.elim registry registry.put).get? moved.2.1.address).isSome := by
    rw [hseated, hleft]
    split_ifs with hsame
    · rw [hplayers, hsame, Option.bind_some, hget]
      rfl
    · rw [hget]
      rfl
  rw [hmoved]
  refine ⟨rfl, ?_, ?_⟩
  · rw [get?_put _ _ hknown, if_pos hseated.symm]
  · intro address haddress
    rw [get?_put _ _ hknown, hseated, if_neg haddress, hleft]

/-! ## Joins -/

/-- Whoever is somewhere after a move was there before or has moved there. -/
theorem Houses.of_movePlayer (hget : registry.get? destination = some server)
    (hhouses : (registry.movePlayer player source destination).1.Houses address resident) :
    registry.Houses address resident ∨
      resident = player ∧ address = destination ∧
        (registry.movePlayer player source destination).2 = true := by
  obtain ⟨after, hafter, hresident⟩ := hhouses
  obtain ⟨hresult, hdestination, hothers⟩ := get?_movePlayer hget player source
  have hmove := GameServer.isExactMove_move player (source.bind registry.get?) server
  by_cases haddress : address = destination
  · rw [haddress, hdestination, Option.some.injEq] at hafter
    rw [← hafter] at hresident
    rw [haddress, houses_iff hget, hresult]
    cases hseated : (GameServer.move player (source.bind registry.get?) server).2.2 with
    | false =>
        rw [(hmove.refused hseated).2] at hresident
        exact Or.inl hresident
    | true =>
        by_cases hplayer : resident = player
        · exact Or.inr ⟨hplayer, rfl, rfl⟩
        · exact Or.inl ((hmove.others resident hplayer).1.mp hresident)
  · left
    rw [hothers address haddress] at hafter
    split_ifs at hafter with hsource
    · obtain ⟨players, hleft⟩ := hmove.left_eq
      have hsome := hafter
      rw [hleft, Option.map_eq_some_iff] at hsome
      obtain ⟨before, hbefore, -⟩ := hsome
      have hearlier := hbefore
      rw [hsource, Option.bind_some] at hearlier
      exact ⟨before, hearlier, hmove.shrinks before hbefore after hafter resident hresident⟩
    · exact ⟨after, hafter, hresident⟩

/-- Who has moved is no longer where the move began. -/
theorem not_houses_source (hget : registry.get? destination = some server)
    (hmoved : (registry.movePlayer player (some address) destination).2 = true)
    (haddress : address ≠ destination) :
    ¬ (registry.movePlayer player (some address) destination).1.Houses address player := by
  rintro ⟨after, hafter, hplayer⟩
  obtain ⟨hresult, -, hothers⟩ := get?_movePlayer hget player (some address)
  have hmove := GameServer.isExactMove_move player ((some address).bind registry.get?) server
  rw [hresult] at hmoved
  have hthere := (mem_of_get? hafter).2
  rw [hothers address haddress, if_pos rfl] at hafter
  refine hmove.departs hmoved after hafter ?_ hplayer
  rw [hthere, hmove.seated_eq, (mem_of_get? hget).2]
  exact haddress

/-- The search finds the only other server that houses the player. -/
theorem otherServerOf?_eq (hexclusive : registry.IsExclusive)
    (hhouses : registry.Houses address player) (haddress : address ≠ destination) :
    registry.otherServerOf? player destination = some address := by
  obtain ⟨server, hget, hplayer⟩ := hhouses
  obtain ⟨hserver, rfl⟩ := mem_of_get? hget
  have hmatches : (server.address != destination && server.hasPlayer player) = true := by
    rw [Bool.and_eq_true, bne_iff_ne, GameServer.hasPlayer_iff]
    exact ⟨haddress, hplayer⟩
  have hsome := List.find?_isSome (p := fun server : GameServer =>
    server.address != destination && server.hasPlayer player).mpr ⟨server, hserver, hmatches⟩
  obtain ⟨found, hfound⟩ := Option.isSome_iff_exists.mp hsome
  have hthere := List.find?_some hfound
  rw [Bool.and_eq_true, GameServer.hasPlayer_iff] at hthere
  have hsame := hexclusive player found (List.mem_of_find?_eq_some hfound) server hserver
    hthere.2 hplayer
  rw [otherServerOf?, hfound, Option.map_some, hsame]

theorem isKeyed_trackJoin (hkeyed : registry.IsKeyed) (player : PlayerId) (address : Endpoint) :
    (registry.trackJoin player address).IsKeyed :=
  isKeyed_of_queues_eq (queues_trackJoin hkeyed player address) hkeyed

/-- Whoever joins a server leaves all others. -/
theorem IsExclusive.trackJoin (hexclusive : registry.IsExclusive) (hkeyed : registry.IsKeyed)
    (player : PlayerId) (destination : Endpoint) :
    (registry.trackJoin player destination).IsExclusive := by
  have hafter := isKeyed_trackJoin hkeyed player destination
  cases hget : registry.get? destination with
  | none =>
      rw [Registry.trackJoin, movePlayer, hget]
      exact hexclusive
  | some server =>
      rw [isExclusive_iff hafter]
      -- The player who joins is at the destination alone.
      have hjoined : ∀ address, (registry.trackJoin player destination).Houses address player →
          (registry.movePlayer player (registry.otherServerOf? player destination)
            destination).2 = true → address = destination := by
        intro address hhouses hmoved
        by_contra haddress
        have hbefore : registry.Houses address player :=
          (hhouses.of_movePlayer hget).resolve_right fun hthere => haddress hthere.2.1
        have hsource := otherServerOf?_eq hexclusive hbefore haddress
        rw [Registry.trackJoin, hsource] at hhouses
        rw [hsource] at hmoved
        exact not_houses_source hget hmoved haddress hhouses
      rw [isExclusive_iff hkeyed] at hexclusive
      intro resident first second hfirst hsecond
      rcases hfirst.of_movePlayer hget with hfirstBefore | ⟨rfl, -, hmoved⟩
      · rcases hsecond.of_movePlayer hget with hsecondBefore | ⟨rfl, -, hmoved⟩
        · exact hexclusive resident first second hfirstBefore hsecondBefore
        · rw [hjoined first hfirst hmoved, hjoined second hsecond hmoved]
      · rw [hjoined first hfirst hmoved, hjoined second hsecond hmoved]

/-- A player who joins a known server is there afterwards, unless it is full of others. -/
theorem houses_trackJoin_iff (hget : registry.get? destination = some server)
    (player : PlayerId) :
    (registry.trackJoin player destination).Houses destination player ↔
      player ∈ server.knownPlayers ∨ server.isFull = false := by
  obtain ⟨hresult, hdestination, -⟩ := get?_movePlayer hget player
    (registry.otherServerOf? player destination)
  have hmove := GameServer.isExactMove_move player
    ((registry.otherServerOf? player destination).bind registry.get?) server
  have helsewhere : ∀ before ∈ (registry.otherServerOf? player destination).bind registry.get?,
      before.address ≠ server.address := by
    intro before hbefore
    obtain ⟨address, haddress, hknown⟩ := Option.bind_eq_some_iff.mp hbefore
    obtain ⟨found, hfound, rfl⟩ := Option.map_eq_some_iff.mp haddress
    have hother := List.find?_some hfound
    rw [Bool.and_eq_true, bne_iff_ne] at hother
    rw [(mem_of_get? hknown).2, (mem_of_get? hget).2]
    exact hother.1
  have haccepts : server.Accepts player
      ((registry.otherServerOf? player destination).bind registry.get?) ↔
        player ∈ server.knownPlayers ∨ server.isFull = false :=
    or_congr_right (and_iff_left helsewhere)
  rw [← haccepts, ← hmove.isSeated_iff, trackJoin, houses_iff hdestination]
  constructor
  · intro hplayer
    cases hseated : (GameServer.move player ((registry.otherServerOf? player destination).bind
        registry.get?) server).2.2 with
    | true => rfl
    | false =>
        rw [(hmove.refused hseated).2] at hplayer
        rw [hmove.isSeated_iff.mpr (Or.inl hplayer)] at hseated
        exact absurd hseated (by decide)
  · exact hmove.arrives

/-! ## Runs -/

/-- What can happen to a registry in which joins are tracked. -/
inductive ResidenceEvent where
  | joined (player : PlayerId) (address : Endpoint)
  | mentioned (mention : Endpoint) (nameHint : String) (now : Nat)
  /-- A report about a server is stored, slots of it are reserved, or its queue is operated. -/
  | changed (address : Endpoint) (now : Nat) (change : GameServer.Change)
  | pruned (now : Nat)

def after (registry : Registry) : ResidenceEvent → Registry
  | .joined player address => registry.trackJoin player address
  | .mentioned mention nameHint now => registry.getOrCreate mention nameHint now
  | .changed address now change => registry.modify address fun server => server.change now change
  | .pruned now => registry.pruneIdle now

def afterAll (registry : Registry) (events : List ResidenceEvent) : Registry :=
  events.foldl after registry

/-- None of these changes concerns the players who are on the server. -/
theorem knownPlayers_change (server : GameServer) (now : Nat) (change : GameServer.Change) :
    (server.change now change).knownPlayers = server.knownPlayers ∧
      (server.change now change).address = server.address := by
  cases change with
  | reserve slots => exact ⟨rfl, rfl⟩
  | store kind report => cases kind <;> exact ⟨rfl, rfl⟩
  | operate operation =>
      rw [GameServer.change, (server.requeued_operate now operation).eq_queue]
      exact ⟨rfl, rfl⟩

theorem isKeyed_after (hkeyed : registry.IsKeyed) (event : ResidenceEvent) :
    (registry.after event).IsKeyed := by
  cases event with
  | joined player address => exact isKeyed_trackJoin hkeyed player address
  | mentioned mention nameHint now => exact isKeyed_getOrCreate hkeyed mention nameHint now
  | changed address now change =>
      exact isKeyed_modify hkeyed fun server _ _ => (knownPlayers_change server now change).2
  | pruned now => exact isKeyed_pruneIdle hkeyed now

theorem IsExclusive.after (hexclusive : registry.IsExclusive) (hkeyed : registry.IsKeyed)
    (event : ResidenceEvent) : (registry.after event).IsExclusive := by
  have hafter := isKeyed_after hkeyed event
  cases event with
  | joined player address => exact hexclusive.trackJoin hkeyed player address
  | mentioned mention nameHint now =>
      refine hexclusive.of_houses hkeyed hafter ?_
      rintro address player ⟨server, hget, hplayer⟩
      rcases get?_getOrCreate hget with hbefore | ⟨-, serial, name, rfl⟩
      · exact ⟨server, hbefore, hplayer⟩
      · exact absurd hplayer PlayerSet.not_mem_empty
  | changed address now change =>
      refine hexclusive.of_houses hkeyed hafter ?_
      rintro other player ⟨server, hget, hplayer⟩
      have hmodify : (registry.after (.changed address now change)).get? other =
          (registry.get? other).map fun server =>
            if server.address = address then server.change now change else server :=
        get?_modify registry
          (fun server haddress => (knownPlayers_change server now change).2.trans haddress) other
      rw [hmodify, Option.map_eq_some_iff] at hget
      obtain ⟨before, hbefore, rfl⟩ := hget
      refine ⟨before, hbefore, ?_⟩
      split_ifs at hplayer
      · rwa [(knownPlayers_change before now change).1] at hplayer
      · exact hplayer
  | pruned now =>
      refine hexclusive.of_houses hkeyed hafter ?_
      rintro address player ⟨server, hget, hplayer⟩
      obtain ⟨hserver, rfl⟩ := mem_of_get? hget
      have hbefore := (servers_pruneIdle_sublist registry now).subset hserver
      exact houses_of_mem hkeyed hbefore hplayer

theorem isExclusive_afterAll (hkeyed : registry.IsKeyed) (hexclusive : registry.IsExclusive)
    (events : List ResidenceEvent) : (registry.afterAll events).IsExclusive := by
  induction events generalizing registry with
  | nil => exact hexclusive
  | cons event rest ih => exact ih (isKeyed_after hkeyed event) (hexclusive.after hkeyed event)

theorem isExclusive_of_nobody
    (hnobody : ∀ server ∈ registry.servers, server.knownPlayers = .empty) :
    registry.IsExclusive := by
  intro player first hfirst _ _ hplayer
  rw [hnobody first hfirst] at hplayer
  exact absurd hplayer PlayerSet.not_mem_empty

/-- Where nobody is known at first, tracking joins leaves every player on at most one server,
whatever servers are mentioned, changed and forgotten meanwhile; who joins a known server is there
afterwards unless it is full of others.  And any move, of any player between any servers, puts the
player on the destination and off the server before, or leaves both as they were; it concerns no
other player and no other server, and adds nobody to a full server. -/
theorem resides_on_one_server (hkeyed : registry.IsKeyed)
    (hnobody : ∀ server ∈ registry.servers, server.knownPlayers = .empty)
    (events : List ResidenceEvent) :
    (registry.afterAll events).IsExclusive ∧
    (∀ player destination server, (registry.afterAll events).get? destination = some server →
      (((registry.afterAll events).trackJoin player destination).Houses destination player ↔
        player ∈ server.knownPlayers ∨ server.isFull = false)) ∧
    (∀ player source destination,
      let moved := GameServer.move player source destination
      GameServer.IsExactMove player source destination moved.1 moved.2.1 moved.2.2) ∧
    ∀ (other : Registry) player source destination server, other.get? destination = some server →
      let moved := GameServer.move player (source.bind other.get?) server
      (other.movePlayer player source destination).2 = moved.2.2 ∧
      (other.movePlayer player source destination).1.get? destination = some moved.2.1 ∧
      ∀ address ≠ destination, (other.movePlayer player source destination).1.get? address =
        if source = some address then moved.1 else other.get? address := by
  refine ⟨?_, ?_, ?_, ?_⟩
  · exact isExclusive_afterAll hkeyed (isExclusive_of_nobody hnobody) events
  · exact fun player _ _ hget => houses_trackJoin_iff hget player
  · exact GameServer.isExactMove_move
  · exact fun _ player source _ _ hget => get?_movePlayer hget player source

/-- A player who is refused by a full server stays on the one before; once a larger capacity is
reported the player moves. -/
theorem resides_on_one_server_if_refused :
    let first := Endpoint.loopback 28960
    let second := Endpoint.loopback 28961
    let events : List ResidenceEvent := [.mentioned first "" 0, .mentioned second "" 0,
      .changed second 1 (.store .info (GameServer.emptyInfo 1)),
      .joined 7 second, .joined 8 first, .joined 8 second]
    let registry := (empty {}).afterAll events
    let enlarged := registry.after (.changed second 2 (.store .info (GameServer.emptyInfo 2)))
    (empty {}).IsKeyed ∧ (∀ server ∈ (empty {}).servers, server.knownPlayers = .empty) ∧
    registry.IsExclusive ∧
    registry.servers.map (·.knownPlayers.toList) = [[8], [7]] ∧
    ¬ (registry.trackJoin 8 second).Houses second 8 ∧
    (registry.movePlayer 8 (some first) second).2 = false ∧
    (enlarged.movePlayer 8 (some first) second).2 = true := by
  intro first second events registry enlarged
  have hkeyed : (empty {}).IsKeyed := isKeyed_empty {}
  have hnobody : ∀ server ∈ (empty {}).servers, server.knownPlayers = .empty := by simp [empty]
  obtain ⟨hexclusive, hjoined, -, hmoves⟩ := resides_on_one_server hkeyed hnobody events
  have hget : registry.get? second = some (registry.servers.get ⟨1, by decide⟩) := by decide
  refine ⟨hkeyed, hnobody, hexclusive, by decide, ?_, ?_, by decide⟩
  · rw [hjoined 8 second _ hget]
    decide
  · rw [(hmoves registry 8 (some first) second _ hget).1]
    decide

end Muster.Registry
