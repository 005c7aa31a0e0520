import Muster.Proofs.Daemon.Handling

/-!
# Addresses of sessions

A session is at the address from which its player last said hello.  Whoever is found by an address
is one of the players who are there: who said hello from it and have neither lost their session nor
said hello from elsewhere since.  There may be several, for a player who says hello moves nobody
else away, and then an address does not tell who sends from it.
-/

namespace Muster

/-- Something that is done with the sessions. -/
inductive SessionCall where
  | hello (player : PlayerId) (name : String) (address : Endpoint) (now : Nat)
  | setState (player : PlayerId) (state : PlayerState)
  | touch (player : PlayerId) (now : Nat)
  | remove (player : PlayerId)
  | sweep (timeout now : Nat)
  deriving DecidableEq, Repr

/-- The sessions, and who was let in from where, the latest first. -/
structure Attendance where
  store : Sessions
  hellos : List (PlayerId × Endpoint)
  deriving DecidableEq, Repr

namespace Attendance

variable {attendance : Attendance} {player other : PlayerId} {address : Endpoint}

def heed (attendance : Attendance) : SessionCall → Attendance
  | .hello player name address now =>
    match attendance.store.hello player name address now with
    | some store => ⟨store, (player, address) :: attendance.hellos⟩
    | none => attendance
  | .setState player state => { attendance with store := attendance.store.setState player state }
  | .touch player now => { attendance with store := attendance.store.touch player now }
  | .remove player => { attendance with store := attendance.store.remove player }
  | .sweep timeout now => { attendance with store := (attendance.store.sweep timeout now).1 }

def after (capacity : Nat) (calls : List SessionCall) : Attendance :=
  calls.foldl heed ⟨.empty capacity, []⟩

def lastAddress? (attendance : Attendance) (player : PlayerId) : Option Endpoint :=
  (attendance.hellos.find? fun hello => hello.1 == player).map (·.2)

def lastGreeter? (attendance : Attendance) (address : Endpoint) : Option PlayerId :=
  (attendance.hellos.find? fun hello => hello.2 == address).map (·.1)

/-- The player has a session and last said hello from the address. -/
def IsAt (attendance : Attendance) (player : PlayerId) (address : Endpoint) : Prop :=
  player ∈ attendance.store.players ∧ attendance.lastAddress? player = some address

/-- Players have one session each, at the address from which they last said hello. -/
structure IsOrderly (attendance : Attendance) : Prop where
  nodup : attendance.store.players.Nodup
  address : ∀ session ∈ attendance.store.sessions,
    attendance.lastAddress? session.id = some session.address

theorem isOrderly_empty (capacity : Nat) : IsOrderly ⟨.empty capacity, []⟩ :=
  ⟨List.nodup_nil, fun _ hsession => absurd hsession List.not_mem_nil⟩

/-! ## One call -/

/-- A change that leaves players and addresses alone. -/
theorem IsOrderly.modify (horderly : attendance.IsOrderly) (player : PlayerId)
    {change : Session → Session} (hid : ∀ session, (change session).id = session.id)
    (haddress : ∀ session, (change session).address = session.address) :
    IsOrderly { attendance with store := attendance.store.modify player change } := by
  constructor
  · rw [Sessions.players_modify _ _ hid]
    exact horderly.nodup
  · intro session hsession
    obtain ⟨earlier, hearlier, rfl⟩ := List.mem_map.mp hsession
    have hlast := horderly.address earlier hearlier
    split_ifs
    · rw [hid, haddress]
      exact hlast
    · exact hlast

/-- Sessions that end concern no other session. -/
theorem IsOrderly.filter (horderly : attendance.IsOrderly) (keeps : Session → Bool) :
    IsOrderly { attendance with
      store := { attendance.store with sessions := attendance.store.sessions.filter keeps } } :=
  ⟨horderly.nodup.sublist (List.filter_sublist.map _),
    fun session hsession => horderly.address session (List.mem_of_mem_filter hsession)⟩

theorem lastAddress?_cons_self (store : Sessions) (player : PlayerId) (address : Endpoint)
    (hellos : List (PlayerId × Endpoint)) :
    lastAddress? ⟨store, (player, address) :: hellos⟩ player = some address := by
  have hfound : ((player, address) :: hellos).find? (fun hello => hello.1 == player) =
      some (player, address) := List.find?_cons_of_pos (beq_self_eq_true player)
  rw [lastAddress?, hfound, Option.map_some]

theorem lastAddress?_cons_of_ne (store : Sessions) (hother : other ≠ player) (address : Endpoint) :
    lastAddress? ⟨store, (player, address) :: attendance.hellos⟩ other =
      attendance.lastAddress? other := by
  have hskipped : ((player, address) :: attendance.hellos).find? (fun hello => hello.1 == other) =
      attendance.hellos.find? fun hello => hello.1 == other :=
    List.find?_cons_of_neg fun hsame => hother (beq_iff_eq.mp hsame).symm
  rw [lastAddress?, hskipped, lastAddress?]

/-- Whoever says hello has the address of the latest hello. -/
theorem IsOrderly.hello (horderly : attendance.IsOrderly) {name : String} {now : Nat}
    {store : Sessions} (hhello : attendance.store.hello player name address now = some store) :
    IsOrderly ⟨store, (player, address) :: attendance.hellos⟩ := by
  refine ⟨Sessions.nodup_players_hello horderly.nodup hhello, ?_⟩
  intro session hsession
  rw [Sessions.hello] at hhello
  split_ifs at hhello with hknown hfull
  · obtain rfl := Option.some.inj hhello
    obtain ⟨earlier, hearlier, rfl⟩ := List.mem_map.mp hsession
    split_ifs with hid
    · change lastAddress? _ earlier.id = some address
      rw [hid]
      exact lastAddress?_cons_self _ _ _ _
    · rw [lastAddress?_cons_of_ne _ hid]
      exact horderly.address earlier hearlier
  · obtain rfl := Option.some.inj hhello
    rcases List.mem_append.mp hsession with hearlier | hnew
    · have hid : session.id ≠ player := by
        rintro rfl
        exact hknown (Sessions.get?_isSome_iff.mpr (List.mem_map_of_mem hearlier))
      rw [lastAddress?_cons_of_ne _ hid]
      exact horderly.address session hearlier
    · obtain rfl := List.mem_singleton.mp hnew
      exact lastAddress?_cons_self _ _ _ _

theorem IsOrderly.heed (horderly : attendance.IsOrderly) (call : SessionCall) :
    (attendance.heed call).IsOrderly := by
  cases call with
  | hello player name address now =>
      rw [Attendance.heed]
      cases hhello : attendance.store.hello player name address now with
      | some store => exact horderly.hello hhello
      | none => exact horderly
  | setState player state => exact horderly.modify player (fun _ => rfl) fun _ => rfl
  | touch player now => exact horderly.modify player (fun _ => rfl) fun _ => rfl
  | remove player => exact horderly.filter _
  | sweep timeout now => exact horderly.filter _

/-! ## Runs -/

theorem isOrderly_after (capacity : Nat) (calls : List SessionCall) :
    (after capacity calls).IsOrderly :=
  List.foldlRecOn calls heed (isOrderly_empty capacity) fun _ horderly call _ =>
    horderly.heed call

/-- Whose session is at an address is known from the hellos alone. -/
theorem IsOrderly.isAt_iff (horderly : attendance.IsOrderly) :
    attendance.IsAt player address ↔
      ∃ session ∈ attendance.store.sessions, session.id = player ∧ session.address = address := by
  constructor
  · rintro ⟨hplayer, hlast⟩
    obtain ⟨session, hsession, rfl⟩ := List.mem_map.mp hplayer
    exact ⟨session, hsession, rfl,
      Option.some.inj ((horderly.address session hsession).symm.trans hlast)⟩
  · rintro ⟨session, hsession, rfl, rfl⟩
    exact ⟨List.mem_map_of_mem hsession, horderly.address session hsession⟩

theorem mem_sendingFrom {session : Session} {store : Sessions} :
    session ∈ store.sendingFrom address ↔
      session ∈ store.sessions ∧ session.address = address := by
  rw [Sessions.sendingFrom, List.mem_filter, beq_iff_eq]

theorem IsOrderly.isAt_of_findByAddress? (horderly : attendance.IsOrderly) {choice : Nat}
    (hfind : attendance.store.findByAddress? address choice = some player) :
    attendance.IsAt player address := by
  obtain ⟨session, hsession, rfl⟩ := Option.map_eq_some_iff.mp hfind
  obtain ⟨hmember, haddress⟩ := mem_sendingFrom.mp (List.mem_of_getElem? hsession)
  exact horderly.isAt_iff.mpr ⟨session, hmember, rfl, haddress⟩

/-- Nobody is found only where there is nobody to choose from. -/
theorem findByAddress?_eq_none {store : Sessions} {choice : Nat}
    (hnone : store.findByAddress? address choice = none) : store.sendingFrom address = [] := by
  rw [Sessions.findByAddress?, Option.map_eq_none_iff, List.getElem?_eq_none_iff] at hnone
  by_contra hsome
  have hmod := Nat.mod_lt choice (List.length_pos_iff.mpr hsome)
  omega

/-- Nobody is found at an address exactly if nobody said hello from there last. -/
theorem IsOrderly.findByAddress?_eq_none_iff (horderly : attendance.IsOrderly) (choice : Nat) :
    attendance.store.findByAddress? address choice = none ↔
      ∀ player, ¬ attendance.IsAt player address := by
  constructor
  · intro hnone player hat
    obtain ⟨session, hsession, -, haddress⟩ := horderly.isAt_iff.mp hat
    have hthere := mem_sendingFrom.mpr ⟨hsession, haddress⟩
    rw [findByAddress?_eq_none hnone] at hthere
    exact List.not_mem_nil hthere
  · intro hnobody
    cases hfind : attendance.store.findByAddress? address choice with
    | none => rfl
    | some player => exact absurd (horderly.isAt_of_findByAddress? hfind) (hnobody player)

/-- Whatever is done with the sessions, each is at the address from which its player last said
hello, and whoever is found by an address is there, whichever of those there is chosen.  Nobody is
found only where nobody is, and whoever is at an address is found there unless somebody else is
there as well. -/
theorem findByAddress?_after (capacity : Nat) (calls : List SessionCall) (address : Endpoint)
    (choice : Nat) :
    (after capacity calls).IsOrderly ∧
    (∀ player, (after capacity calls).store.findByAddress? address choice = some player →
      (after capacity calls).IsAt player address) ∧
    ((after capacity calls).store.findByAddress? address choice = none ↔
      ∀ player, ¬ (after capacity calls).IsAt player address) ∧
    ∀ player, (after capacity calls).IsAt player address →
      ((after capacity calls).store.findByAddress? address choice = some player ∨
        ∃ other, other ≠ player ∧ (after capacity calls).IsAt other address) := by
  have horderly := isOrderly_after capacity calls
  refine ⟨horderly, fun player => horderly.isAt_of_findByAddress?,
    horderly.findByAddress?_eq_none_iff choice, ?_⟩
  intro player hat
  cases hfind : (after capacity calls).store.findByAddress? address choice with
  | none => exact absurd hat ((horderly.findByAddress?_eq_none_iff choice).mp hfind player)
  | some other =>
      by_cases hother : other = player
      · exact Or.inl (congrArg some hother)
      · exact Or.inr ⟨other, hother, horderly.isAt_of_findByAddress? hfind⟩

/-- Two players who say hello from one address. -/
def sharedAddress : List SessionCall :=
  [.hello 1 "one" (.loopback 28960) 0, .hello 2 "two" (.loopback 28960) 0]

/-- Two players said hello from one address, and one of them is found there. -/
theorem findByAddress?_after_sharedAddress :
    ((after 4 sharedAddress).store.findByAddress? (.loopback 28960) 0 = some 1 ∧
      (after 4 sharedAddress).IsAt 1 (.loopback 28960)) ∧
    (after 4 sharedAddress).IsAt 2 (.loopback 28960) ∧
    ((after 4 sharedAddress).store.findByAddress? (.loopback 28960) 0 = some 2 ∨
      ∃ other, other ≠ 2 ∧ (after 4 sharedAddress).IsAt other (.loopback 28960)) := by
  obtain ⟨-, hfound, -, hnamed⟩ := findByAddress?_after 4 sharedAddress (.loopback 28960) 0
  have hfirst : (after 4 sharedAddress).store.findByAddress? (.loopback 28960) 0 = some 1 := by
    decide
  have hsecond : (after 4 sharedAddress).IsAt 2 (.loopback 28960) := ⟨by decide, by decide⟩
  exact ⟨⟨hfirst, hfound 1 hfirst⟩, hsecond, hnamed 2 hsecond⟩

/-- Both keep their sessions, either of them may be found, and when the one who greeted last is
gone, the other is found. -/
theorem not_nodup_addresses_sharedAddress :
    (after 4 sharedAddress).lastGreeter? (.loopback 28960) = some 2 ∧
      ¬ ((after 4 sharedAddress).store.sessions.map (·.address)).Nodup ∧
      (after 4 sharedAddress).store.findByAddress? (.loopback 28960) 0 = some 1 ∧
      (after 4 sharedAddress).store.findByAddress? (.loopback 28960) 1 = some 2 ∧
      ∀ choice, (after 4 (sharedAddress ++ [.remove 2])).store.findByAddress? (.loopback 28960)
        choice = some 1 := by
  refine ⟨by decide, by decide, by decide, by decide, ?_⟩
  intro choice
  have hthere : ((after 4 (sharedAddress ++ [.remove 2])).store.sendingFrom
      (.loopback 28960)).map (·.id) = [1] := by decide
  rw [Sessions.findByAddress?, ← List.getElem?_map, hthere, ← List.length_map, hthere]
  simp [Nat.mod_one]

end Attendance

end Muster
