import Muster.Proofs.Admission.Joining

/-!
# Capacity of a server

Slots of a server are held for players who are joining and for privileged players.  Neither an
operation on the queue nor a reservation holds more slots than the known capacity, unless they were
held before.  The capacity itself may turn out to be smaller than what is held: an info replaces the
one before, or is the first, and nothing is given up for it.  While no info is known any number of
slots can be reserved, also one that cannot be added to the number of queued players.
-/

namespace Muster.GameServer

/-- Slots that are held for players who are joining and for privileged players. -/
def heldSlots (server : GameServer) : Nat :=
  server.queue.joiningCount + server.privilegedSlots.toNat

/-- What can change a server, players who are on it left aside. -/
inductive Change where
  | reserve (slots : Count)
  | store (kind : ProbeKind) (report : kind.Report)
  | operate (operation : Operation)

def change (server : GameServer) (now : Nat) : Change → GameServer
  | .reserve slots => server.reserve slots
  | .store kind report => server.store now kind report
  | .operate operation => (server.operate now operation).1

def changeAll (server : GameServer) (changes : List (Nat × Change)) : GameServer :=
  changes.foldl (fun server change => server.change change.1 change.2) server

def Change.isInfo : Change → Bool
  | .store .info _ => true
  | _ => false

variable {server start : GameServer} {config : QueueConfig} {info : Stamped ServerInfo}
  {changes : List (Nat × Change)} {now : Nat}

theorem changeAll_append (server : GameServer) (changes others : List (Nat × Change)) :
    server.changeAll (changes ++ others) = (server.changeAll changes).changeAll others :=
  List.foldl_append

theorem changeAll_concat (server : GameServer) (changes : List (Nat × Change)) (now : Nat)
    (change : Change) :
    server.changeAll (changes ++ [(now, change)]) = (server.changeAll changes).change now change :=
  changeAll_append server changes _

/-! ## What is held -/

/-- The queue is in order, and its joining players can be counted. -/
structure IsCounted (server : GameServer) (config : QueueConfig) : Prop where
  isOrderly : server.queue.IsOrderly
  config_eq : server.queue.config = config
  joiningCount_le : server.queue.joiningCount ≤ Count.max

theorem isCounted_register (serial : Nat) (address : Endpoint) (nameHint : String)
    (config : QueueConfig) (start : Nat) :
    (register serial address nameHint config start).IsCounted config :=
  ⟨Queue.isOrderly_empty config start, rfl, Nat.zero_le _⟩

theorem joiningRoom_le_max (server : GameServer) : server.joiningRoom ≤ Count.max :=
  Count.toNat_le_max _

theorem IsCounted.change (hserver : server.IsCounted config) (now : Nat) (change : Change) :
    (server.change now change).IsCounted config := by
  cases change with
  | reserve slots => exact ⟨hserver.isOrderly, hserver.config_eq, hserver.joiningCount_le⟩
  | store kind report =>
      cases kind <;> exact ⟨hserver.isOrderly, hserver.config_eq, hserver.joiningCount_le⟩
  | operate operation =>
      refine ⟨isOrderly_operate hserver.isOrderly now operation, ?_, ?_⟩
      · exact (config_operate hserver.isOrderly now operation).trans hserver.config_eq
      · have hjoining := server.joiningCount_operate_le now operation
        have hroom := server.joiningRoom_le_max
        have hbefore := hserver.joiningCount_le
        exact Nat.le_trans hjoining (Nat.max_le.mpr ⟨hbefore, hroom⟩)

theorem IsCounted.changeAll (hserver : server.IsCounted config) (changes : List (Nat × Change)) :
    (server.changeAll changes).IsCounted config :=
  List.foldlRecOn (motive := fun server => IsCounted server config) changes _ hserver
    fun _ hserver change _ => hserver.change change.1 change.2

theorem IsCounted.toNat_joiningCount (hserver : server.IsCounted config) :
    server.joiningCount.toNat = server.queue.joiningCount :=
  UInt32.toNat_ofNat_of_lt (Nat.lt_succ_of_le hserver.joiningCount_le)

theorem info_change {change : Change} (hchange : change.isInfo = false) :
    (server.change now change).info = server.info := by
  cases change with
  | reserve slots => rfl
  | store kind report =>
      cases kind with
      | info => exact absurd hchange (by simp [Change.isInfo])
      | status => rfl
  | operate operation => exact info_operate server now operation

theorem info_changeAll (hchanges : ∀ change ∈ changes, change.2.isInfo = false) :
    (server.changeAll changes).info = server.info :=
  List.foldlRecOn (motive := fun other : GameServer => other.info = server.info) changes _ rfl
    fun _ hother change hchange => (info_change (hchanges change hchange)).trans hother

/-- A reservation holds what the joining players leave of the known capacity. -/
theorem heldSlots_reserve_le (hserver : server.IsCounted config) (hinfo : server.info = some info)
    (slots : Count) : (server.reserve slots).heldSlots ≤
      max info.value.maxClients.toNat server.queue.joiningCount := by
  have hslots : (server.reserve slots).privilegedSlots.toNat ≤
      info.value.maxClients.toNat - server.queue.joiningCount := by
    simp only [reserve, hinfo]
    rw [Count.toNat_min, Count.toNat_minus, hserver.toNat_joiningCount]
    exact Nat.min_le_right _ _
  have hheld : (server.reserve slots).heldSlots =
      server.queue.joiningCount + (server.reserve slots).privilegedSlots.toNat := rfl
  omega

/-- Players begin to join only as long as the known capacity has slots that are not held. -/
theorem heldSlots_operate_le (hinfo : server.info = some info) (now : Nat) (operation : Operation) :
    (server.operate now operation).1.heldSlots ≤
      max info.value.maxClients.toNat server.heldSlots := by
  have hjoining := server.joiningCount_operate_le now operation
  have hroom : server.joiningRoom =
      info.value.freeSlots.toNat - server.privilegedSlots.toNat := by
    rw [joiningRoom, joinableSlots?, hinfo, Option.map_some, Option.getD_some, Count.toNat_minus]
  have hfree : info.value.freeSlots.toNat ≤ info.value.maxClients.toNat := by
    rw [ServerInfo.freeSlots, Count.toNat_minus]
    exact Nat.sub_le _ _
  rw [heldSlots, heldSlots, privilegedSlots_operate]
  omega

/-- As long as no other info comes, no more slots are held than the known capacity, or than were
held. -/
theorem heldSlots_change_le (hserver : server.IsCounted config) (hinfo : server.info = some info)
    (now : Nat) {change : Change} (hchange : change.isInfo = false) :
    (server.change now change).heldSlots ≤ max info.value.maxClients.toNat server.heldSlots := by
  cases change with
  | reserve slots =>
      have hreserve := heldSlots_reserve_le hserver hinfo slots
      have hjoining : server.queue.joiningCount ≤ server.heldSlots := Nat.le_add_right _ _
      exact Nat.le_trans hreserve (Nat.max_le.mpr
        ⟨Nat.le_max_left _ _, Nat.le_trans hjoining (Nat.le_max_right _ _)⟩)
  | store kind report =>
      cases kind with
      | info => exact absurd hchange (by simp [Change.isInfo])
      | status => exact Nat.le_max_right _ _
  | operate operation => exact heldSlots_operate_le hinfo now operation

/-- Slots that are held grow past the known capacity only by what becomes known of the server. -/
theorem heldSlots_changeAll_le (hserver : server.IsCounted config)
    (hinfo : server.info = some info) (hchanges : ∀ change ∈ changes, change.2.isInfo = false) :
    (server.changeAll changes).heldSlots ≤ max info.value.maxClients.toNat server.heldSlots := by
  induction changes generalizing server with
  | nil => exact Nat.le_max_right _ _
  | cons change rest ih =>
      rw [List.forall_mem_cons] at hchanges
      have hfirst := heldSlots_change_le hserver hinfo change.1 hchanges.1
      have hrest := ih (hserver.change change.1 change.2)
        ((info_change hchanges.1).trans hinfo) hchanges.2
      exact Nat.le_trans hrest (Nat.max_le.mpr ⟨Nat.le_max_left _ _, hfirst⟩)

/-- After an info is stored, and after each reservation since. -/
theorem heldSlots_changeAll_store_le (hserver : server.IsCounted config) (moment : Nat)
    (value : ServerInfo) (hchanges : ∀ change ∈ changes, change.2.isInfo = false) :
    let stored := server.change moment (.store .info value)
    (stored.changeAll changes).heldSlots ≤ max value.maxClients.toNat server.heldSlots ∧
    ∀ before reserving slots after, changes = before ++ (reserving, .reserve slots) :: after →
      (stored.changeAll changes).heldSlots ≤
        max value.maxClients.toNat (stored.changeAll before).queue.joiningCount := by
  intro stored
  have hstored : stored.IsCounted config := hserver.change moment (.store .info value)
  have hinfo : stored.info = some ⟨value, moment⟩ := rfl
  refine ⟨heldSlots_changeAll_le hstored hinfo hchanges, ?_⟩
  rintro before reserving slots after rfl
  rw [List.forall_mem_append, List.forall_mem_cons] at hchanges
  have hbefore := hstored.changeAll before
  have hknown := (info_changeAll hchanges.1).trans hinfo
  have hreserve := heldSlots_reserve_le hbefore hknown slots
  have hafter := heldSlots_changeAll_le (hbefore.change reserving (.reserve slots)) hknown
    hchanges.2.2
  rw [changeAll_append]
  exact Nat.le_trans hafter (Nat.max_le.mpr ⟨Nat.le_max_left _ _, hreserve⟩)

/-! ## Where it comes from -/

/-- An info that is known was stored, and no other one has been stored since. -/
theorem exists_store_of_info (hstart : start.info = none)
    (hinfo : (start.changeAll changes).info = some info) :
    ∃ earlier later, changes = earlier ++ (info.storedAt, .store .info info.value) :: later ∧
      ∀ change ∈ later, change.2.isInfo = false := by
  induction changes using List.reverseRecOn with
  | nil =>
      rw [changeAll, List.foldl_nil, hstart] at hinfo
      exact absurd hinfo (by simp)
  | append_singleton changes last ih =>
      obtain ⟨now, change⟩ := last
      rw [changeAll_concat] at hinfo
      cases hchange : change.isInfo with
      | false =>
          rw [info_change hchange] at hinfo
          obtain ⟨earlier, later, rfl, hlater⟩ := ih hinfo
          refine ⟨earlier, later ++ [(now, change)], by simp, ?_⟩
          rw [List.forall_mem_append, List.forall_mem_singleton]
          exact ⟨hlater, hchange⟩
      | true =>
          cases change with
          | reserve slots => exact absurd hchange (by simp [Change.isInfo])
          | operate operation => exact absurd hchange (by simp [Change.isInfo])
          | store kind report =>
              cases kind with
              | status => exact absurd hchange (by simp [Change.isInfo])
              | info =>
                  obtain rfl := Option.some.inj hinfo
                  exact ⟨changes, [], rfl, by simp⟩

/-- Privileged slots other than those at the start come from a reservation. -/
theorem exists_reserve_of_privilegedSlots
    (hslots : (start.changeAll changes).privilegedSlots ≠ start.privilegedSlots) :
    ∃ earlier moment slots later, changes = earlier ++ (moment, .reserve slots) :: later ∧
      (start.changeAll changes).privilegedSlots =
        ((start.changeAll earlier).reserve slots).privilegedSlots := by
  induction changes using List.reverseRecOn with
  | nil => exact absurd rfl hslots
  | append_singleton changes last ih =>
      obtain ⟨now, change⟩ := last
      have hsame (hkept : (start.changeAll (changes ++ [(now, change)])).privilegedSlots =
          (start.changeAll changes).privilegedSlots) :
          ∃ earlier moment slots later,
            changes ++ [(now, change)] = earlier ++ (moment, .reserve slots) :: later ∧
            (start.changeAll (changes ++ [(now, change)])).privilegedSlots =
              ((start.changeAll earlier).reserve slots).privilegedSlots := by
        rw [hkept] at hslots ⊢
        obtain ⟨earlier, moment, slots, later, rfl, hcome⟩ := ih hslots
        exact ⟨earlier, moment, slots, later ++ [(now, change)], by simp, hcome⟩
      cases change with
      | reserve slots => exact ⟨changes, now, slots, [], rfl, by rw [changeAll_concat]; rfl⟩
      | store kind report =>
          apply hsame
          rw [changeAll_concat]
          cases kind <;> rfl
      | operate operation =>
          apply hsame
          rw [changeAll_concat]
          exact privilegedSlots_operate _ now operation

/-- A reservation is cut to what was asked and to the capacity that is known. -/
theorem privilegedSlots_reserve_le (server : GameServer) (slots : Count) :
    (server.reserve slots).privilegedSlots.toNat ≤ slots.toNat ∧
      ∀ info, server.info = some info →
        (server.reserve slots).privilegedSlots.toNat ≤ info.value.maxClients.toNat := by
  cases hinfo : server.info with
  | none => simp [reserve, hinfo]
  | some info =>
      simp only [reserve, hinfo, Count.toNat_min, Count.toNat_minus]
      refine ⟨Nat.min_le_left _ _, fun other hother => ?_⟩
      rw [← Option.some.inj hother]
      omega

/-! ## What is open -/

theorem isOverbooked_iff : server.isOverbooked ↔
    Count.max < server.queuedCount.toNat + server.privilegedSlots.toNat := by
  rw [isOverbooked, Option.isNone_iff_eq_none, reservedSlots?, Count.sum?_eq_none_iff]

theorem isOverbooked_iff_availableSlots? :
    server.isOverbooked ↔ server.availableSlots? = none := by
  rw [isOverbooked, availableSlots?, Option.isNone_iff_eq_none, Option.map_eq_none_iff]

theorem toNat_availableSlots? (hinfo : server.info = some info) {available : Count}
    (havailable : server.availableSlots? = some available) :
    available.toNat = info.value.freeSlots.toNat -
      (server.queuedCount.toNat + server.privilegedSlots.toNat) := by
  obtain ⟨reserved, hreserved, rfl⟩ := Option.map_eq_some_iff.mp havailable
  rw [reservedSlots?, Count.sum?_eq_some_iff] at hreserved
  simp only [hinfo, Count.toNat_minus, hreserved]

theorem IsCounted.queuedCount_le (hserver : server.IsCounted config) :
    server.queuedCount.toNat ≤ config.maxQueueLength := by
  have hlength := hserver.isOrderly.isWellFormed.length_le
  rw [hserver.config_eq] at hlength
  have hcount : server.queuedCount.toNat = server.queue.length % 2 ^ 32 := rfl
  exact Nat.le_trans (hcount ▸ Nat.mod_le _ _) hlength

/-- Only a large reservation that was not checked against a capacity can overbook a server. -/
theorem exists_reserve_of_isOverbooked (hstart : start.IsCounted config)
    (hnone : start.privilegedSlots = 0) (hover : (start.changeAll changes).isOverbooked) :
    ∃ earlier moment slots later, changes = earlier ++ (moment, .reserve slots) :: later ∧
      Count.max < config.maxQueueLength + slots.toNat ∧
      ∀ info, (start.changeAll earlier).info = some info →
        Count.max < config.maxQueueLength + info.value.maxClients.toNat := by
  have hqueued := (hstart.changeAll changes).queuedCount_le
  have hcount := Count.toNat_le_max (start.changeAll changes).queuedCount
  rw [isOverbooked_iff] at hover
  have hslots : (start.changeAll changes).privilegedSlots ≠ start.privilegedSlots := by
    intro hsame
    rw [hsame, hnone, UInt32.toNat_zero] at hover
    omega
  obtain ⟨earlier, moment, slots, later, hchanges, hcome⟩ :=
    exists_reserve_of_privilegedSlots hslots
  obtain ⟨hasked, hknown⟩ := (start.changeAll earlier).privilegedSlots_reserve_le slots
  rw [hcome] at hover
  refine ⟨earlier, moment, slots, later, hchanges, by omega, ?_⟩
  intro info hinfo
  have hclients := hknown info hinfo
  omega

/-! ## Runs -/

/-- In the course of any run no more slots are held than the capacity according to the latest info,
unless more were held when that info was stored, and from the next reservation on, unless more
players were joining then.  What is open is what is free without those who are queued and the
privileged slots, and it can be told unless the two are more than a count holds.  That takes a
reservation of almost as many slots as a count holds, made when no info was known or one of a server
with room for that many. -/
theorem heldSlots_le_maxClients_unless (serial : Nat) (address : Endpoint) (nameHint : String)
    (config : QueueConfig) (start : Nat) (changes : List (Nat × Change)) :
    let registered := register serial address nameHint config start
    let server := registered.changeAll changes
    (∀ info, server.info = some info →
      ∃ earlier later, changes = earlier ++ (info.storedAt, .store .info info.value) :: later ∧
        server.heldSlots ≤
          max info.value.maxClients.toNat (registered.changeAll earlier).heldSlots ∧
        ∀ before moment slots after, later = before ++ (moment, .reserve slots) :: after →
          server.heldSlots ≤ max info.value.maxClients.toNat
            (registered.changeAll
              (earlier ++ (info.storedAt, .store .info info.value) :: before)).queue.joiningCount) ∧
    (∀ info available, server.info = some info → server.availableSlots? = some available →
      available.toNat = info.value.freeSlots.toNat -
        (server.queuedCount.toNat + server.privilegedSlots.toNat)) ∧
    (server.availableSlots? = none ↔
      Count.max < server.queuedCount.toNat + server.privilegedSlots.toNat) ∧
    (server.availableSlots? = none →
      ∃ earlier moment slots later, changes = earlier ++ (moment, .reserve slots) :: later ∧
        Count.max < config.maxQueueLength + slots.toNat ∧
        ∀ info, (registered.changeAll earlier).info = some info →
          Count.max < config.maxQueueLength + info.value.maxClients.toNat) := by
  intro registered server
  have hregistered : registered.IsCounted config :=
    isCounted_register serial address nameHint config start
  refine ⟨?_, fun info available hinfo => toNat_availableSlots? hinfo, ?_, ?_⟩
  · intro info hinfo
    obtain ⟨earlier, later, hchanges, hlater⟩ := exists_store_of_info (by rfl) hinfo
    have hstored : ∀ before, registered.changeAll
        (earlier ++ (info.storedAt, .store .info info.value) :: before) =
          ((registered.changeAll earlier).change info.storedAt
            (.store .info info.value)).changeAll before := fun before =>
      changeAll_append registered earlier _
    have hserver : server = _ := (congrArg registered.changeAll hchanges).trans (hstored later)
    obtain ⟨hheld, hreserved⟩ := heldSlots_changeAll_store_le (hregistered.changeAll earlier)
      info.storedAt info.value hlater
    refine ⟨earlier, later, hchanges, hserver ▸ hheld, ?_⟩
    intro before moment slots after hsplit
    rw [hserver, hstored]
    exact hreserved before moment slots after hsplit
  · rw [← isOverbooked_iff_availableSlots?, isOverbooked_iff]
  · rw [← isOverbooked_iff_availableSlots?]
    exact exists_reserve_of_isOverbooked hregistered rfl

def emptyInfo (maxClients : Count) : ServerInfo :=
  ⟨.loopback 28960, "", "", "", "", "", 0, 0, maxClients, 5, false⟩

/-- More slots are held than the latest info allows: where they were reserved before anything was
known of the server, and where an info allows less than the one before.  One queued player and all
the slots that a count holds, reserved while nothing was known, cannot be added. -/
theorem not_heldSlots_le_maxClients :
    let registered := register 0 (.loopback 28960) "" {} 0
    let first := registered.changeAll [(0, .reserve 10), (1, .store .info (emptyInfo 8))]
    let smaller := registered.changeAll
      [(0, .store .info (emptyInfo 8)), (1, .reserve 8), (2, .store .info (emptyInfo 4))]
    let uncounted := registered.changeAll [(0, .reserve 0xFFFFFFFF), (1, .operate (.enqueue 7))]
    ¬ (∀ info, first.info = some info → first.heldSlots ≤ info.value.maxClients.toNat) ∧
    ¬ (∀ info, smaller.info = some info → smaller.heldSlots ≤ info.value.maxClients.toNat) ∧
    uncounted.availableSlots? = none ∧
    Count.max < uncounted.queuedCount.toNat + uncounted.privilegedSlots.toNat := by
  intro registered first smaller uncounted
  refine ⟨fun hfits => ?_, fun hfits => ?_, by decide, by decide⟩
  · exact absurd (hfits ⟨emptyInfo 8, 1⟩ rfl) (by decide)
  · exact absurd (hfits ⟨emptyInfo 4, 2⟩ rfl) (by decide)

end Muster.GameServer
