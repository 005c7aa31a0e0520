import Muster.Proofs.Admission.Admitted
import Muster.Proofs.Match.Bookkeeping
import Muster.Proofs.Matchmaker.Handover
import Muster.Proofs.Matchmaker.Notices

/-!
# Conveying players to queues

What the groups of one moment come to when they are handed over and nothing happens in between.
Each player of a group is in the queue of its server afterwards, or in the pool as before, and hears
which.  Nobody else is concerned, and a queue grows by no more than the players sent to it.
-/

namespace Muster.Matchmaker

open Effect (noticesFor)
open Registry (sentTo sentTo_add)

variable {matchmaker before next after : Matchmaker} {player : PlayerId} {now : Nat}
  {address : Endpoint} {group : List PlayerId} {searcher : Searcher}

/-! ## The pool -/

theorem searcher?_addSearcher_self (matchmaker : Matchmaker) (searcher : Searcher) :
    (matchmaker.addSearcher searcher).searcher? searcher.id = some searcher := by
  have hothers : ((matchmaker.removeSearcher searcher.id).pool.find? fun other =>
      other.id == searcher.id) = none := by
    rw [List.find?_eq_none]
    intro other hother
    simpa [removeSearcher] using (List.mem_filter.mp hother).2
  rw [searcher?, addSearcher, List.find?_append, hothers]
  simp

theorem searcher?_removeSearcher_other (matchmaker : Matchmaker) {other : PlayerId}
    (hother : player ≠ other) :
    (matchmaker.removeSearcher other).searcher? player = matchmaker.searcher? player := by
  rw [searcher?, removeSearcher, List.find?_filter, searcher?]
  congr 1
  funext searcher
  by_cases hid : searcher.id = player
  · simp [hid, hother]
  · simp [hid]

theorem searcher?_addSearcher_other (matchmaker : Matchmaker) (hother : player ≠ searcher.id) :
    (matchmaker.addSearcher searcher).searcher? player = matchmaker.searcher? player := by
  have hlast : [searcher].find? (fun other => other.id == player) = none := by
    simpa using hother.symm
  have hothers := searcher?_removeSearcher_other matchmaker hother
  rw [searcher?] at hothers
  rw [searcher?, addSearcher, List.find?_append, hlast, Option.or_none, hothers]

theorem searcher?_eq_none (hplayer : player ∉ matchmaker.roll) :
    matchmaker.searcher? player = none := by
  rw [← Option.not_isSome_iff_eq_none]
  intro hsearching
  exact hplayer (List.mem_append_left _ (isSearching_iff.mp hsearching))

/-- Whoever is not in the group stays in the pool. -/
theorem searcher?_foldl_removeSearcher (matchmaker : Matchmaker) {players : List PlayerId}
    (hplayer : player ∉ players) :
    (players.foldl removeSearcher matchmaker).searcher? player = matchmaker.searcher? player := by
  induction players generalizing matchmaker with
  | nil => rfl
  | cons other rest ih =>
      rw [List.mem_cons, not_or] at hplayer
      rw [List.foldl_cons, ih _ hplayer.2, searcher?_removeSearcher_other _ hplayer.1]

/-! ## Conveyance -/

/-- These players have been handed over, and nobody else is concerned: the other players of the
pool stay there and hear nothing, and servers only admit so many players each. -/
structure Conveys (now : Nat) (players : List PlayerId) (count : Endpoint → Nat)
    (before after : Matchmaker) (effects : List Effect) : Prop where
  searcher?_eq : ∀ player, player ∉ players →
    after.searcher? player = before.searcher? player
  silent : ∀ player, player ∉ players → noticesFor player effects = []
  admitted : before.registry.Admitted now count after.registry

theorem Conveys.refl (matchmaker : Matchmaker) :
    Conveys now [] (fun _ => 0) matchmaker matchmaker [] :=
  ⟨fun _ _ => rfl, fun _ _ => rfl, Registry.Admitted.refl matchmaker.registry⟩

/-- Those whom two steps let into a queue add up, and so does what they tell. -/
theorem Conveys.trans {players others : List PlayerId} {first second : Endpoint → Nat}
    {effects later : List Effect} (hfirst : Conveys now players first before next effects)
    (hsecond : Conveys now others second next after later) :
    Conveys now (players ++ others) (fun address => first address + second address) before after
      (effects ++ later) := by
  constructor
  · intro player hplayer
    rw [List.mem_append, not_or] at hplayer
    rw [hsecond.searcher?_eq player hplayer.2, hfirst.searcher?_eq player hplayer.1]
  · intro player hplayer
    rw [List.mem_append, not_or] at hplayer
    rw [Effect.noticesFor_append, hfirst.silent player hplayer.1, hsecond.silent player hplayer.2]
    rfl
  · exact hfirst.admitted.trans hsecond.admitted

theorem Conveys.mono {players others : List PlayerId} {count larger : Endpoint → Nat}
    {effects : List Effect} (hconveys : Conveys now players count before after effects)
    (hplayers : players ⊆ others) (hcount : ∀ address, count address ≤ larger address) :
    Conveys now others larger before after effects :=
  ⟨fun player hplayer => hconveys.searcher?_eq player fun hmember => hplayer (hplayers hmember),
    fun player hplayer => hconveys.silent player fun hmember => hplayer (hplayers hmember),
    hconveys.admitted.mono hcount⟩

/-- What has become of a player of a group. -/
inductive Settled (now : Nat) (address : Endpoint) (group : List PlayerId) (searcher : Searcher)
    (matchmaker : Matchmaker) (effects : List Effect) : Prop where
  /-- The player is in the queue and has heard of the match. -/
  | seated (hout : matchmaker.searcher? searcher.id = none)
      (hseats : matchmaker.registry.Seats address searcher.id now)
      (hnotices : noticesFor searcher.id effects = [.matchFound address group])
  /-- The player is in the pool and has heard of the match and that the queue is full. -/
  | refused (hsearches : matchmaker.searcher? searcher.id = some searcher)
      (hnotices : noticesFor searcher.id effects =
        [.matchFound address group, .failure .queueFull])
  /-- The player is in the pool, for there is no such server any more. -/
  | stranded (hsearches : matchmaker.searcher? searcher.id = some searcher)
      (hgone : matchmaker.registry.get? address = none)
      (hnotices : noticesFor searcher.id effects = [])

/-- What has become of a player stays so when other players are handed over after that. -/
theorem Settled.append {effects later : List Effect} {players : List PlayerId}
    {count : Endpoint → Nat} (hsettled : Settled now address group searcher before effects)
    (hconveys : Conveys now players count before after later) (hother : searcher.id ∉ players)
    (htime : before.registry.HasTime) :
    Settled now address group searcher after (effects ++ later) := by
  have hsearcher := hconveys.searcher?_eq searcher.id hother
  have hnotices : noticesFor searcher.id (effects ++ later) = noticesFor searcher.id effects := by
    rw [Effect.noticesFor_append, hconveys.silent searcher.id hother, List.append_nil]
  cases hsettled with
  | seated hout hseats hheard =>
      exact .seated (hsearcher.trans hout) (hconveys.admitted.seats htime hseats)
        (hnotices.trans hheard)
  | refused hsearches hheard => exact .refused (hsearcher.trans hsearches) (hnotices.trans hheard)
  | stranded hsearches hgone hheard =>
      refine .stranded (hsearcher.trans hsearches) ?_ (hnotices.trans hheard)
      rw [Option.eq_none_iff_forall_ne_some]
      intro server hserver
      obtain ⟨earlier, hearlier, -⟩ := hconveys.admitted.of_get?_eq_some hserver
      simp [hgone] at hearlier

/-- What was told before of anything but the search does not matter to the player. -/
theorem Settled.prepend {earlier effects : List Effect}
    (hsettled : Settled now address group searcher matchmaker effects)
    (hsilent : noticesFor searcher.id earlier = []) :
    Settled now address group searcher matchmaker (earlier ++ effects) := by
  have hnotices : noticesFor searcher.id (earlier ++ effects) = noticesFor searcher.id effects := by
    rw [Effect.noticesFor_append, hsilent, List.nil_append]
  cases hsettled with
  | seated hout hseats hheard => exact .seated hout hseats (hnotices.trans hheard)
  | refused hsearches hheard => exact .refused hsearches (hnotices.trans hheard)
  | stranded hsearches hgone hheard => exact .stranded hsearches hgone (hnotices.trans hheard)

/-! ## Handing over -/

/-- The player joins the queue and hears of nothing but the queue. -/
theorem conveys_enqueue {effects : List Effect}
    (henqueue : matchmaker.enqueue address player now = .ok (next, effects)) :
    Conveys now [] (sentTo address 1) matchmaker next effects ∧
      (matchmaker.registry.HasTime → next.registry.Seats address player now) := by
  obtain ⟨server, changed, events, hget, hserver, hnext, heffects⟩ := enqueue_eq_ok henqueue
  obtain ⟨hadmitted, hseats⟩ := GameServer.admitted_enqueue hserver
  have haddress : changed.address = address :=
    (GameServer.address_enqueue hserver).trans (Registry.mem_of_get? hget).2
  have hmodify : next.registry = matchmaker.registry.modify address fun _ => changed := by
    rw [hnext, replaceServer, haddress]
  refine ⟨⟨?_, ?_, ?_⟩, ?_⟩
  · intro other _
    rw [hnext]
    rfl
  · intro other _
    rw [heffects, replaceServer, Effect.noticesFor_publish]
  · rw [hmodify]
    exact Registry.admitted_modify hget hadmitted
  · intro htime
    refine ⟨changed, ?_, hseats (htime address server hget)⟩
    rw [hmodify, Registry.get?_modify _ (fun _ _ => haddress), hget, Option.map_some,
      if_pos (Registry.mem_of_get? hget).2]

/-- A known server refuses a player without a place only for lack of room. -/
theorem enqueue_eq_error {error : QueueError}
    (hknown : (matchmaker.registry.get? address).isSome) (hout : player ∉ matchmaker.roll)
    (henqueue : matchmaker.enqueue address player now = .error error) : error = .queueFull := by
  obtain ⟨server, hget⟩ := Option.isSome_iff_exists.mp hknown
  simp only [enqueue, hget] at henqueue
  cases hserver : server.enqueue player now with
  | ok outcome => simp [hserver] at henqueue
  | error other =>
      simp only [hserver, Except.error.injEq] at henqueue
      rw [← henqueue]
      apply GameServer.enqueue_eq_error _ hserver
      intro hplayer
      apply hout
      apply List.mem_append_right
      exact Registry.mem_queued.mpr ⟨server, (Registry.mem_of_get? hget).1, hplayer⟩

theorem conveys_addSearcher (matchmaker : Matchmaker) (searcher : Searcher) (now : Nat) :
    Conveys now [searcher.id] (fun _ => 0) matchmaker (matchmaker.addSearcher searcher) [] := by
  constructor
  · intro player hplayer
    rw [List.mem_singleton] at hplayer
    exact searcher?_addSearcher_other matchmaker hplayer
  · intro player _
    rfl
  · exact Registry.Admitted.refl matchmaker.registry

/-- The player of a notice is the only one who hears it. -/
theorem Conveys.notify {players : List PlayerId} {count : Endpoint → Nat} {effects : List Effect}
    (hconveys : Conveys now players count before after effects) {event : ClientEvent}
    (hplayer : player ∈ players) :
    Conveys now players count before after (.notify player event :: effects) := by
  refine ⟨hconveys.searcher?_eq, ?_, hconveys.admitted⟩
  intro other hother
  have hdistinct : player ≠ other := by
    rintro rfl
    exact hother hplayer
  rw [Effect.noticesFor_cons, Effect.noticesFor_notify_other hdistinct,
    hconveys.silent other hother]
  rfl

/-- A player who is handed over is in the queue of the server, or hears why not and has an entry as
it was. -/
theorem conveys_handOver (hknown : (matchmaker.registry.get? address).isSome)
    (hout : searcher.id ∉ matchmaker.roll) (group : List PlayerId) (now : Nat) :
    Conveys now [searcher.id] (sentTo address 1) matchmaker
        (matchmaker.handOver address group searcher now).1
        (matchmaker.handOver address group searcher now).2 ∧
      (matchmaker.registry.HasTime →
        Settled now address group searcher (matchmaker.handOver address group searcher now).1
          (matchmaker.handOver address group searcher now).2) := by
  have hself : searcher.id ∈ [searcher.id] := List.mem_cons_self
  have hfound : noticesFor searcher.id [.notify searcher.id (.matchFound address group)] =
      [.matchFound address group] := Effect.noticesFor_notify_self rfl
  rw [handOver]
  cases henqueue : matchmaker.enqueue address searcher.id now with
  | ok outcome =>
      obtain ⟨next, effects⟩ := outcome
      obtain ⟨hconveys, hseats⟩ := conveys_enqueue henqueue
      refine ⟨(hconveys.mono (List.nil_subset _) fun _ => Nat.le_refl _).notify hself, ?_⟩
      intro htime
      apply Settled.seated
      · rw [hconveys.searcher?_eq searcher.id List.not_mem_nil, searcher?_eq_none hout]
      · exact hseats htime
      · rw [Effect.noticesFor_cons, hfound, hconveys.silent searcher.id List.not_mem_nil]
        rfl
  | error error =>
      have hfull := enqueue_eq_error hknown hout henqueue
      have hfailure : noticesFor searcher.id [.notify searcher.id (.failure .queueFull)] =
          [.failure .queueFull] := Effect.noticesFor_notify_self rfl
      have hconveys := conveys_addSearcher matchmaker searcher now
      constructor
      · refine Conveys.notify (Conveys.notify (hconveys.mono ?_ ?_) hself) hself
        · exact List.Subset.refl _
        · exact fun _ => Nat.zero_le _
      · intro _
        apply Settled.refused
        · exact searcher?_addSearcher_self matchmaker searcher
        · rw [hfull, Effect.noticesFor_cons, hfound]
          exact congrArg _ hfailure

/-- Players of a group are handed over one after the other, each to the same server. -/
theorem conveys_handOverAll (hkeyed : matchmaker.registry.IsKeyed)
    (hknown : (matchmaker.registry.get? address).isSome) {searchers : List Searcher}
    (hout : (searchers.map (·.id) ++ matchmaker.roll).Nodup) (group : List PlayerId) (now : Nat) :
    Conveys now (searchers.map (·.id)) (sentTo address searchers.length) matchmaker
        (handOverAll address group now searchers matchmaker).1
        (handOverAll address group now searchers matchmaker).2 ∧
      (matchmaker.registry.HasTime → ∀ searcher ∈ searchers,
        Settled now address group searcher
          (handOverAll address group now searchers matchmaker).1
          (handOverAll address group now searchers matchmaker).2) := by
  induction searchers generalizing matchmaker with
  | nil =>
      constructor
      · exact (Conveys.refl matchmaker).mono (List.Subset.refl _) fun _ => Nat.zero_le _
      · intro _ searcher hsearcher
        exact absurd hsearcher List.not_mem_nil
  | cons searcher rest ih =>
      rw [List.map_cons, List.cons_append, List.nodup_cons, List.mem_append, not_or] at hout
      obtain ⟨⟨hother, hfirst⟩, hrest⟩ := hout
      obtain ⟨hconveys, hsettled⟩ := conveys_handOver hknown hfirst group now
      have hmoves := moves_handOver hkeyed address group searcher now
      let next := (matchmaker.handOver address group searcher now).1
      have hknown' : (next.registry.get? address).isSome := by
        obtain ⟨server, hget⟩ := Option.isSome_iff_exists.mp hknown
        obtain ⟨changed, hchanged, -⟩ := hconveys.admitted.get?_eq_some hget
        exact Option.isSome_iff_exists.mpr ⟨changed, hchanged⟩
      -- Whatever became of the first player, the others have no place yet.
      have hout' : (rest.map (·.id) ++ next.roll).Nodup := by
        have hpart : (rest.map (·.id) ++ next.roll).Subperm
            (rest.map (·.id) ++ ([searcher.id] ++ matchmaker.roll)) :=
          (List.Subperm.refl _).append hmoves.roll_subperm
        refine Parts.nodup hpart ?_
        rw [(List.perm_append_comm_assoc _ _ _).nodup_iff]
        exact List.nodup_cons.mpr ⟨by simp [hother, hfirst], hrest⟩
      obtain ⟨hconveys', hsettled'⟩ := ih hmoves.isKeyed hknown' hout'
      constructor
      · rw [List.length_cons, Nat.add_comm, ← sentTo_add]
        exact hconveys.trans hconveys'
      · intro htime
        rw [List.forall_mem_cons]
        constructor
        · exact (hsettled htime).append hconveys' hother (hconveys.admitted.hasTime htime)
        · intro player hplayer
          apply (hsettled' (hconveys.admitted.hasTime htime) player hplayer).prepend
          apply hconveys.silent
          rw [List.mem_singleton]
          rintro heq
          exact hother (heq ▸ List.mem_map_of_mem hplayer)

end Muster.Matchmaker
