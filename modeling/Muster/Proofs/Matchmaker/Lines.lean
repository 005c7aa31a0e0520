import Muster.Proofs.Admission.Lines
import Muster.Proofs.Matchmaker.Handover
import Muster.Proofs.Registry.Queues

/-!
# Standing in line

In which queue a player is and what the player does there, and what the changes of queues say of it
that the matchmaker makes known: of all changes that an operation makes known, the last one about a
player says where the player is in line afterwards.
-/

namespace Muster

variable {player : PlayerId} {now : Nat}

/-! ## The lines -/

namespace Registry

variable {registry other : Registry} {address : Endpoint} {state : EntryState}

/-- The server in whose queue a player is, and what the player does there. -/
def inLine? (registry : Registry) (player : PlayerId) : Option (Endpoint × EntryState) :=
  registry.queues.findSome? fun line => (line.2.doing? player).map fun state => (line.1, state)

theorem inLine?_eq_none_iff : registry.inLine? player = none ↔ player ∉ registry.queued := by
  simp only [inLine?, List.findSome?_eq_none_iff, Option.map_eq_none_iff, Queue.doing?_eq_none_iff,
    queued_eq, List.mem_flatMap, not_exists, not_and]

/-- A player is in line where the player is, if the player is nowhere else. -/
theorem inLine?_of_queues_eq {before after : List (Endpoint × Queue)} {queue : Queue}
    (hqueues : registry.queues = before ++ (address, queue) :: after)
    (hothers : ∀ line ∈ before ++ after, player ∉ line.2.players) :
    registry.inLine? player = (queue.doing? player).map fun state => (address, state) := by
  have hnone : ∀ lines : List (Endpoint × Queue), (∀ line ∈ lines, player ∉ line.2.players) →
      (lines.findSome? fun line => (line.2.doing? player).map fun state => (line.1, state)) =
        none := by
    intro lines hlines
    rw [List.findSome?_eq_none_iff]
    intro line hline
    rw [Queue.doing?_eq_none_iff.mpr (hlines line hline), Option.map_none]
  rw [List.forall_mem_append] at hothers
  rw [inLine?, hqueues, List.findSome?_append, hnone before hothers.1, Option.none_or,
    List.findSome?_cons, hnone after hothers.2]
  cases queue.doing? player <;> rfl

/-- Who is in one queue is in no other one. -/
theorem not_mem_others (hnodup : registry.queued.Nodup) {before after : List (Endpoint × Queue)}
    {queue : Queue} (hqueues : registry.queues = before ++ (address, queue) :: after)
    (hplayer : player ∈ queue.players) : ∀ line ∈ before ++ after, player ∉ line.2.players := by
  intro line hline hother
  rw [queued_eq, hqueues, (List.perm_middle.flatMap_right _).nodup_iff, List.flatMap_cons] at hnodup
  exact (List.nodup_append.mp hnodup).2.2 player hplayer player
    (List.mem_flatMap.mpr ⟨line, hline, hother⟩) rfl

/-- A player is in line in the queue that has the player, and in no other. -/
theorem inLine?_eq_some_iff (hnodup : registry.queued.Nodup) :
    registry.inLine? player = some (address, state) ↔
      ∃ queue, (address, queue) ∈ registry.queues ∧ queue.doing? player = some state := by
  constructor
  · intro hline
    obtain ⟨⟨found, queue⟩, hqueue, hdoing⟩ := List.exists_of_findSome?_eq_some hline
    obtain ⟨found, hfound, hsame⟩ := Option.map_eq_some_iff.mp hdoing
    obtain ⟨rfl, rfl⟩ := Prod.mk.inj hsame
    exact ⟨queue, hqueue, hfound⟩
  · rintro ⟨queue, hqueue, hdoing⟩
    obtain ⟨before, after, hqueues⟩ := List.append_of_mem hqueue
    have hplayer : player ∈ queue.players := by
      by_contra hout
      rw [Queue.doing?_eq_none_iff.mpr hout] at hdoing
      exact absurd hdoing (by simp)
    rw [inLine?_of_queues_eq hqueues (not_mem_others hnodup hqueues hplayer), hdoing,
      Option.map_some]

/-- Queues in which a player is not do not matter to where the player is. -/
theorem inLine?_congr (hregistry : registry.queued.Nodup) (hother : other.queued.Nodup)
    (hqueues : ∀ address queue, player ∈ queue.players →
      ((address, queue) ∈ other.queues ↔ (address, queue) ∈ registry.queues)) :
    other.inLine? player = registry.inLine? player := by
  apply Option.ext
  rintro ⟨address, state⟩
  rw [inLine?_eq_some_iff hother, inLine?_eq_some_iff hregistry]
  apply exists_congr
  intro queue
  apply and_congr_left
  intro hdoing
  apply hqueues
  by_contra hout
  rw [Queue.doing?_eq_none_iff.mpr hout] at hdoing
  exact absurd hdoing (by simp)

section Replacement

variable {earlier later : List (Endpoint × Queue)} {queue changed : Queue}
  {events : List QueueEvent}

/-- Where a player is in line whom a queue holds or held that takes the place of another one. -/
theorem inLine?_of_replaced (hregistry : registry.queued.Nodup) (hother : other.queued.Nodup)
    (hbefore : registry.queues = earlier ++ (address, queue) :: later)
    (hafter : other.queues = earlier ++ (address, changed) :: later)
    (hplayer : player ∈ queue.players ∨ player ∈ changed.players) :
    registry.inLine? player = (queue.doing? player).map (fun state => (address, state)) ∧
      other.inLine? player = (changed.doing? player).map fun state => (address, state) := by
  have hothers : ∀ line ∈ earlier ++ later, player ∉ line.2.players := by
    rcases hplayer with hplayer | hplayer
    · exact not_mem_others hregistry hbefore hplayer
    · exact not_mem_others hother hafter hplayer
  exact ⟨inLine?_of_queues_eq hbefore hothers, inLine?_of_queues_eq hafter hothers⟩

/-- A change of one queue that tells a player nothing leaves the player in line where the player
was. -/
theorem inLine?_replaced_of_silent (hregistry : registry.queued.Nodup)
    (hother : other.queued.Nodup)
    (hbefore : registry.queues = earlier ++ (address, queue) :: later)
    (hafter : other.queues = earlier ++ (address, changed) :: later)
    (htells : queue.Tells changed events) (hsilent : QueueEvent.about player events = []) :
    other.inLine? player = registry.inLine? player := by
  by_cases hplayer : player ∈ queue.players ∨ player ∈ changed.players
  · obtain ⟨hline, hline'⟩ := inLine?_of_replaced hregistry hother hbefore hafter hplayer
    rw [hline, hline', htells.silent player hsilent]
  · rw [not_or] at hplayer
    apply inLine?_congr hregistry hother
    intro found others hmember
    have hdistinct : ∀ without : Queue, player ∉ without.players →
        (found, others) ≠ (address, without) := by
      intro without hout heq
      exact hout ((Prod.mk.inj heq).2 ▸ hmember)
    rw [hbefore, hafter, List.mem_append, List.mem_cons, List.mem_append, List.mem_cons]
    simp only [hdistinct _ hplayer.1, hdistinct _ hplayer.2, false_or]

end Replacement

end Registry

/-! ## Changes of queues -/

namespace AdmissionEvent

variable {changes others : List AdmissionEvent}

def place? (change : AdmissionEvent) : Option (Endpoint × EntryState) :=
  change.event.doing?.map fun state => (change.server, state)

def about (player : PlayerId) (changes : List AdmissionEvent) : List AdmissionEvent :=
  changes.filter fun change => change.event.player == player

@[simp]
theorem about_nil (player : PlayerId) : about player [] = [] := rfl

@[simp]
theorem about_append (player : PlayerId) (changes others : List AdmissionEvent) :
    about player (changes ++ others) = about player changes ++ about player others :=
  List.filter_append _ _

theorem about_map (player : PlayerId) (server : Endpoint) (events : List QueueEvent) :
    about player (events.map fun event => ⟨server, event⟩) =
      (QueueEvent.about player events).map fun event => ⟨server, event⟩ :=
  List.filter_map

/-- What the last change says of a place, when later changes follow earlier ones. -/
theorem place?_of_getLast?_append {earlier later : List AdmissionEvent}
    {place next : Option (Endpoint × EntryState)}
    (hearlier : ∀ change ∈ earlier.getLast?, change.place? = place)
    (hsilent : later = [] → next = place)
    (hlater : ∀ change ∈ later.getLast?, change.place? = next) :
    ∀ change ∈ (earlier ++ later).getLast?, change.place? = next := by
  intro change hchange
  rw [List.getLast?_append] at hchange
  by_cases hnone : later = []
  · rw [hnone, List.getLast?_nil, Option.none_or] at hchange
    exact (hearlier change hchange).trans (hsilent hnone).symm
  · obtain ⟨last, hlast⟩ := Option.isSome_iff_exists.mp (List.getLast?_isSome.mpr hnone)
    rw [hlast, Option.some_or, Option.mem_some_iff] at hchange
    exact hchange ▸ hlater last hlast

end AdmissionEvent

theorem Effect.admissions_publish (server : Endpoint) (joinTimeout : Nat)
    (events : List QueueEvent) :
    (publish server joinTimeout events).filterMap admission? =
      events.map fun event => ⟨server, event⟩ := by
  induction events with
  | nil => rfl
  | cons event rest ih =>
      rw [List.map_cons, ← ih]
      rfl

namespace Matchmaker

open AdmissionEvent (about)

variable {matchmaker before next after : Matchmaker} {joined others : List PlayerId}
  {changes later : List AdmissionEvent}

def inLine? (matchmaker : Matchmaker) (player : PlayerId) : Option (Endpoint × EntryState) :=
  matchmaker.registry.inLine? player

theorem isSearching_eq_false (hplayer : player ∉ matchmaker.roll) :
    matchmaker.isSearching player = false := by
  rw [Bool.eq_false_iff, Ne, isSearching_iff]
  exact fun hpool => hplayer (List.mem_append_left _ hpool)

theorem inLine?_eq_none (hplayer : player ∉ matchmaker.roll) :
    matchmaker.inLine? player = none :=
  Registry.inLine?_eq_none_iff.mpr fun hqueued => hplayer (List.mem_append_right _ hqueued)

theorem IsConsistent.nodup_queued (hconsistent : matchmaker.IsConsistent) :
    matchmaker.registry.queued.Nodup :=
  hconsistent.nodup_roll.sublist (List.sublist_append_right _ _)

/-- Where a player is in line is known from the queue of one server. -/
theorem inLine?_eq_some_iff (hconsistent : matchmaker.IsConsistent) {address : Endpoint}
    {state : EntryState} :
    matchmaker.inLine? player = some (address, state) ↔
      ∃ server, matchmaker.registry.get? address = some server ∧
        server.queue.doing? player = some state := by
  rw [inLine?, Registry.inLine?_eq_some_iff hconsistent.nodup_queued]
  constructor
  · rintro ⟨queue, hqueue, hdoing⟩
    obtain ⟨server, hserver, hsame⟩ := List.mem_map.mp hqueue
    obtain ⟨haddress, rfl⟩ := Prod.mk.inj hsame
    exact ⟨server, (Registry.get?_eq_some_iff hconsistent.isKeyed).mpr ⟨hserver, haddress⟩, hdoing⟩
  · rintro ⟨server, hget, hdoing⟩
    obtain ⟨hserver, rfl⟩ := Registry.mem_of_get? hget
    exact ⟨server.queue, List.mem_map_of_mem hserver, hdoing⟩

/-- Nobody has two places, and every queue is orderly. -/
structure IsOrderly (matchmaker : Matchmaker) : Prop where
  isConsistent : matchmaker.IsConsistent
  queues : ∀ line ∈ matchmaker.registry.queues, line.2.IsOrderly

theorem IsConsistent.not_mem_queued (hconsistent : matchmaker.IsConsistent)
    (hsearching : matchmaker.isSearching player) : player ∉ matchmaker.registry.queued := by
  intro hqueued
  exact (List.nodup_append.mp hconsistent.nodup_roll).2.2 player (isSearching_iff.mp hsearching)
    player hqueued rfl

/-- What the changes of queues say that an operation makes known.  The last change about a player
says where the player is in line afterwards, and who is told of no change is in line as before. -/
structure Discloses (before after : Matchmaker) (changes : List AdmissionEvent) : Prop where
  isOrderly : after.IsOrderly
  silent : ∀ player, about player changes = [] → after.inLine? player = before.inLine? player
  latest : ∀ player, ∀ change ∈ (about player changes).getLast?,
    change.place? = after.inLine? player

/-- An operation that makes nothing known. -/
theorem discloses_nil (horderly : after.IsOrderly)
    (hline : ∀ player, after.inLine? player = before.inLine? player) :
    Discloses before after [] := by
  refine ⟨horderly, fun player _ => hline player, ?_⟩
  intro player change hchange
  simp at hchange

theorem Discloses.trans (hfirst : Discloses before next changes)
    (hsecond : Discloses next after later) : Discloses before after (changes ++ later) := by
  refine ⟨hsecond.isOrderly, ?_, ?_⟩
  · intro player hsilent
    rw [AdmissionEvent.about_append, List.append_eq_nil_iff] at hsilent
    rw [hsecond.silent player hsilent.2, hfirst.silent player hsilent.1]
  · intro player
    rw [AdmissionEvent.about_append]
    exact AdmissionEvent.place?_of_getLast?_append (hfirst.latest player) (hsecond.silent player)
      (hsecond.latest player)

/-- An operation on the queue of one server. -/
theorem discloses_replaceServer (horderly : matchmaker.IsOrderly) {server changed : GameServer}
    {events : List QueueEvent} (hserver : server ∈ matchmaker.registry.servers)
    (haddress : changed.address = server.address)
    (htells : server.queue.Tells changed.queue events)
    (hconsistent : (matchmaker.replaceServer changed events).1.IsConsistent) :
    Discloses matchmaker (matchmaker.replaceServer changed events).1
      (events.map fun event => ⟨server.address, event⟩) := by
  obtain ⟨earlier, later, hbefore, hmodify⟩ :=
    Registry.exists_lines horderly.isConsistent.isKeyed hserver
  have hafter : (matchmaker.replaceServer changed events).1.registry.queues =
      earlier ++ (server.address, changed.queue) :: later := by
    rw [replaceServer, haddress]
    exact hmodify haddress
  have hnodup := horderly.isConsistent.nodup_queued
  have hnodup' := hconsistent.nodup_queued
  refine ⟨⟨hconsistent, ?_⟩, ?_, ?_⟩
  · have hlines := horderly.queues
    rw [hbefore, List.forall_mem_append, List.forall_mem_cons] at hlines
    rw [hafter, List.forall_mem_append, List.forall_mem_cons]
    exact ⟨hlines.1, htells.isOrderly, hlines.2.2⟩
  · intro player hsilent
    rw [AdmissionEvent.about_map, List.map_eq_nil_iff] at hsilent
    exact Registry.inLine?_replaced_of_silent hnodup hnodup' hbefore hafter htells hsilent
  · intro player change hchange
    rw [AdmissionEvent.about_map, List.getLast?_map, Option.mem_map] at hchange
    obtain ⟨event, hevent, rfl⟩ := hchange
    have htold : QueueEvent.about player events ≠ [] := by
      intro hnone
      rw [hnone] at hevent
      simp at hevent
    have hline := Registry.inLine?_of_replaced hnodup hnodup' hbefore hafter
      (htells.concerned player htold)
    rw [inLine?, hline.2, ← htells.latest player event hevent]
    rfl

end Matchmaker

end Muster
