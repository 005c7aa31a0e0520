import Mathlib.Data.List.Flatten
import Muster.Proofs.Admission.Players
import Muster.Registry.Refresh

/-!
# Servers of a registry

A registry is keyed: it knows no two servers by one address.  In such a registry a change at an
address is a change of one server among others that stay as they are, so what all queues hold
together changes by what the queue of that server gains and loses.
-/

namespace Muster.Registry

variable {registry : Registry} {address mention : Endpoint} {server : GameServer}
  {player : PlayerId} {nameHint : String} {now : Nat}

def IsKeyed (registry : Registry) : Prop :=
  (registry.servers.map (·.address)).Nodup

def queued (registry : Registry) : List PlayerId :=
  registry.servers.flatMap (·.queue.players)

theorem isKeyed_empty (config : QueueConfig) : (empty config).IsKeyed :=
  List.nodup_nil

theorem mem_queued : player ∈ registry.queued ↔
    ∃ server ∈ registry.servers, player ∈ server.queue.players :=
  List.mem_flatMap

theorem isQueued_iff : registry.isQueued player ↔ player ∈ registry.queued := by
  rw [isQueued, queueOf?, List.find?_isSome, mem_queued]
  simp only [Queue.contains_iff]

/-! ## Looking up -/

theorem mem_of_get? (hget : registry.get? address = some server) :
    server ∈ registry.servers ∧ server.address = address := by
  have haddress := List.find?_some hget
  exact ⟨List.mem_of_find?_eq_some hget, beq_iff_eq.mp haddress⟩

theorem get?_eq_some_iff (hkeyed : registry.IsKeyed) :
    registry.get? address = some server ↔
      server ∈ registry.servers ∧ server.address = address := by
  constructor
  · exact mem_of_get?
  · rintro ⟨hserver, rfl⟩
    exact Parts.find?_key hkeyed hserver

theorem get?_eq_none_iff :
    registry.get? address = none ↔ ∀ server ∈ registry.servers, server.address ≠ address := by
  simp [get?]

/-! ## Changing one server -/

theorem get?_modify (registry : Registry) {change : GameServer → GameServer}
    (hchange : ∀ server, server.address = address → (change server).address = address)
    (other : Endpoint) :
    (registry.modify address change).get? other =
      (registry.get? other).map fun server =>
        if server.address = address then change server else server := by
  have hbeq : ((fun server : GameServer => server.address == other) ∘ fun server : GameServer =>
      if server.address = address then change server else server) =
        fun server => server.address == other := by
    funext server
    simp only [Function.comp_apply]
    split_ifs with haddress
    · rw [hchange server haddress, haddress]
    · rfl
  rw [get?, modify, List.find?_map, hbeq]
  rfl

/-- A keyed registry is made of the server at an address and of others. -/
theorem exists_others (hkeyed : registry.IsKeyed) (hget : registry.get? address = some server) :
    ∃ before after, registry.servers = before ++ server :: after ∧
      ∀ change : GameServer → GameServer,
        (registry.modify address change).servers = before ++ change server :: after := by
  obtain ⟨hserver, rfl⟩ := mem_of_get? hget
  obtain ⟨before, after, hservers⟩ := List.append_of_mem hserver
  refine ⟨before, after, hservers, ?_⟩
  intro change
  have hkeys := hkeyed
  rw [IsKeyed, hservers, List.map_append, List.map_cons, List.nodup_middle,
    List.nodup_cons, List.mem_append, not_or] at hkeys
  obtain ⟨⟨hbefore, hafter⟩, -⟩ := hkeys
  have hkept : ∀ others : List GameServer, server.address ∉ others.map (·.address) →
      (others.map fun other =>
        if other.address = server.address then change other else other) = others := by
    intro others hothers
    have hsame : ∀ other ∈ others,
        (if other.address = server.address then change other else other) = id other := by
      intro other hother
      apply if_neg
      rintro heq
      exact hothers (heq ▸ List.mem_map_of_mem hother)
    rw [List.map_congr_left hsame, List.map_id]
  simp only [modify, hservers, List.map_append, List.map_cons, if_pos, hkept before hbefore,
    hkept after hafter]

theorem isKeyed_modify (hkeyed : registry.IsKeyed) {change : GameServer → GameServer}
    (hchange : ∀ server ∈ registry.servers, server.address = address →
      (change server).address = server.address) :
    (registry.modify address change).IsKeyed := by
  have haddresses : (registry.modify address change).servers.map (·.address) =
      registry.servers.map (·.address) := by
    rw [modify, List.map_map]
    apply List.map_congr_left
    intro server hserver
    simp only [Function.comp_apply]
    split_ifs with haddress
    · exact hchange server hserver haddress
    · rfl
  rw [IsKeyed, haddresses]
  exact hkeyed

/-- The queue of one server and those of the others, which no change of that server concerns. -/
theorem exists_queued_others (hkeyed : registry.IsKeyed)
    (hget : registry.get? address = some server) :
    ∃ others, registry.queued.Perm (server.queue.players ++ others) ∧
      ∀ change : GameServer → GameServer,
        (registry.modify address change).queued.Perm
          ((change server).queue.players ++ others) := by
  obtain ⟨before, after, hservers, hmodify⟩ := exists_others hkeyed hget
  have hsplit : ∀ middle : GameServer,
      ((before ++ middle :: after).flatMap (·.queue.players)).Perm
        (middle.queue.players ++ (before ++ after).flatMap (·.queue.players)) := by
    intro middle
    exact List.perm_middle.flatMap_right fun server : GameServer => server.queue.players
  refine ⟨(before ++ after).flatMap (·.queue.players), ?_, ?_⟩
  · rw [queued, hservers]
    exact hsplit server
  · intro change
    rw [queued, hmodify]
    exact hsplit (change server)

/-- What a queue gains is all that the queues gain together. -/
theorem queued_modify_subperm (hkeyed : registry.IsKeyed)
    (hget : registry.get? address = some server) (change : GameServer → GameServer)
    {joined : List PlayerId}
    (hchange : (change server).queue.players.Subperm (joined ++ server.queue.players)) :
    (registry.modify address change).queued.Subperm (joined ++ registry.queued) := by
  obtain ⟨others, hbefore, hafter⟩ := exists_queued_others hkeyed hget
  have hlocal : ((change server).queue.players ++ others).Subperm
      (joined ++ server.queue.players ++ others) :=
    hchange.append (List.Subperm.refl others)
  have hall : (joined ++ (server.queue.players ++ others)).Perm (joined ++ registry.queued) :=
    hbefore.symm.append_left joined
  rw [List.append_assoc] at hlocal
  exact ((hafter change).subperm.trans hlocal).trans hall.subperm

/-- A change that leaves the queues as they are. -/
theorem queued_modify {change : GameServer → GameServer}
    (hchange : ∀ server, (change server).queue = server.queue) :
    (registry.modify address change).queued = registry.queued := by
  rw [queued, modify, List.flatMap_map]
  congr 1
  funext server
  split_ifs
  · rw [hchange]
  · rfl

/-! ## Registering -/

/-- A server is registered under its address without the zone, if it is not known there. -/
theorem getOrCreate_cases (registry : Registry) (mention : Endpoint) (nameHint : String)
    (now : Nat) :
    registry.getOrCreate mention nameHint now = registry ∨
      registry.get? mention.withoutZone = none ∧
      registry.getOrCreate mention nameHint now =
        { registry with
          servers := registry.servers ++ [.register registry.nextSerial mention.withoutZone
            nameHint registry.queueConfig now]
          nextSerial := registry.nextSerial + 1 } := by
  simp only [getOrCreate]
  split_ifs with hknown
  · exact Or.inl rfl
  · right
    refine ⟨?_, rfl⟩
    simpa using hknown

theorem isKeyed_getOrCreate (hkeyed : registry.IsKeyed) (mention : Endpoint) (nameHint : String)
    (now : Nat) : (registry.getOrCreate mention nameHint now).IsKeyed := by
  rcases getOrCreate_cases registry mention nameHint now with hsame | ⟨hunknown, hcreated⟩
  · rwa [hsame]
  · rw [hcreated, IsKeyed, List.map_append, List.nodup_append]
    refine ⟨hkeyed, List.nodup_singleton _, ?_⟩
    rintro address haddress created hcreated rfl
    obtain ⟨server, hserver, rfl⟩ := List.mem_map.mp haddress
    rw [List.map_singleton, List.mem_singleton] at hcreated
    exact get?_eq_none_iff.mp hunknown server hserver hcreated

@[simp]
theorem queued_getOrCreate (registry : Registry) (mention : Endpoint) (nameHint : String)
    (now : Nat) : (registry.getOrCreate mention nameHint now).queued = registry.queued := by
  rcases getOrCreate_cases registry mention nameHint now with hsame | ⟨-, hcreated⟩
  · rw [hsame]
  · rw [hcreated, queued, List.flatMap_append]
    exact List.append_nil registry.queued

theorem isKeyed_getOrCreateAll (hkeyed : registry.IsKeyed) (mentions : List Endpoint)
    (now : Nat) : (registry.getOrCreateAll mentions now).IsKeyed := by
  induction mentions generalizing registry with
  | nil => exact hkeyed
  | cons mention rest ih => exact ih (isKeyed_getOrCreate hkeyed mention "" now)

@[simp]
theorem queued_getOrCreateAll (registry : Registry) (mentions : List Endpoint) (now : Nat) :
    (registry.getOrCreateAll mentions now).queued = registry.queued := by
  induction mentions generalizing registry with
  | nil => rfl
  | cons mention rest ih => exact (ih _).trans (queued_getOrCreate registry mention "" now)

theorem get?_getOrCreate_of_some (mention : Endpoint) (nameHint : String) (now : Nat)
    (hget : registry.get? address = some server) :
    (registry.getOrCreate mention nameHint now).get? address = some server := by
  rcases getOrCreate_cases registry mention nameHint now with hsame | ⟨-, hcreated⟩
  · rwa [hsame]
  · rw [get?] at hget
    rw [hcreated, get?, List.find?_append, hget, Option.some_or]

/-- Whom a registration finds was known before, or is new and has an empty queue. -/
theorem get?_getOrCreate (hget : (registry.getOrCreate mention nameHint now).get? address =
    some server) :
    registry.get? address = some server ∨
      registry.get? address = none ∧ ∃ serial name,
        server = .register serial address name registry.queueConfig now := by
  rcases getOrCreate_cases registry mention nameHint now with hsame | ⟨-, hcreated⟩
  · rw [hsame] at hget
    exact Or.inl hget
  · rw [hcreated, get?, List.find?_append] at hget
    cases hfound : registry.get? address with
    | some found =>
        rw [get?] at hfound
        rw [hfound, Option.some_or] at hget
        exact Or.inl hget
    | none =>
        rw [get?] at hfound
        rw [hfound, Option.none_or, List.find?_singleton] at hget
        split_ifs at hget with haddress
        rw [beq_iff_eq] at haddress
        refine Or.inr ⟨rfl, registry.nextSerial, nameHint, ?_⟩
        rw [← Option.some.inj hget, ← haddress]
        rfl

theorem queueConfig_getOrCreate (registry : Registry) (mention : Endpoint) (nameHint : String)
    (now : Nat) :
    (registry.getOrCreate mention nameHint now).queueConfig = registry.queueConfig := by
  rcases getOrCreate_cases registry mention nameHint now with hsame | ⟨-, hcreated⟩
  · rw [hsame]
  · rw [hcreated]

/-- A server that becomes known has just been registered. -/
theorem get?_getOrCreateAll {mentions : List Endpoint}
    (hget : (registry.getOrCreateAll mentions now).get? address = some server) :
    registry.get? address = some server ∨
      registry.get? address = none ∧ ∃ serial name,
        server = .register serial address name registry.queueConfig now := by
  induction mentions generalizing registry with
  | nil => exact Or.inl hget
  | cons mention rest ih =>
      rcases ih hget with hfirst | ⟨hunknown, serial, name, hnew⟩
      · exact get?_getOrCreate hfirst
      · refine Or.inr ⟨?_, serial, name, ?_⟩
        · cases hfound : registry.get? address with
          | none => rfl
          | some found =>
              have hkept := get?_getOrCreate_of_some mention "" now hfound
              rw [hkept] at hunknown
              exact absurd hunknown (by simp)
        · rw [hnew, queueConfig_getOrCreate]

/-! ## Forgetting -/

theorem servers_pruneIdle_sublist (registry : Registry) (now : Nat) :
    (registry.pruneIdle now).servers.Sublist registry.servers := by
  rw [pruneIdle]
  split_ifs
  · exact List.filter_sublist
  · exact List.Sublist.refl _

theorem isKeyed_pruneIdle (hkeyed : registry.IsKeyed) (now : Nat) :
    (registry.pruneIdle now).IsKeyed :=
  hkeyed.sublist ((servers_pruneIdle_sublist registry now).map _)

theorem queued_pruneIdle_sublist (registry : Registry) (now : Nat) :
    (registry.pruneIdle now).queued.Sublist registry.queued :=
  (servers_pruneIdle_sublist registry now).flatMap _

/-- Nobody is in the queue of a server that is forgotten. -/
theorem players_of_forgotten (hserver : server ∈ registry.servers)
    (hforgotten : server ∉ (registry.pruneIdle now).servers) : server.queue.players = [] := by
  rw [pruneIdle] at hforgotten
  split_ifs at hforgotten
  · rw [List.mem_filter, not_and] at hforgotten
    have hidle : server.queue.isIdle now := by simpa using hforgotten hserver
    rw [Queue.isIdle, Bool.and_eq_true] at hidle
    exact Queue.isEmpty_iff.mp hidle.1
  · exact absurd hserver hforgotten

end Muster.Registry
