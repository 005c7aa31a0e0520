import Muster.Proofs.Admission.Activity
import Muster.Proofs.Matchmaker.Staffing

/-!
# Lives of processors

A processor begins with a player who is let into a queue that is not looked after.  It ends in a
pass of its own that finds the queue empty and long unchanged: whatever was done to the queue in the
course of the run was done no later than the queue says.
-/

namespace Muster.Matchmaker

variable {matchmaker next : Matchmaker} {server changed : GameServer} {config : QueueConfig}
  {now : Nat}

/-! ## Ends -/

theorem mem_staffed_startProcessor {serial : Nat} (hlive : serial ∈ matchmaker.staffed)
    (server : GameServer) (now : Nat) :
    serial ∈ (matchmaker.startProcessor server now).staffed := by
  rw [startProcessor]
  split_ifs
  · exact hlive
  · rw [staffed, List.map_append]
    exact List.mem_append_left _ hlive

theorem IsStaffed.mem_replaced (hstaffed : matchmaker.IsStaffed config)
    (hserver : server ∈ matchmaker.registry.servers) (changed : GameServer) :
    changed ∈ (matchmaker.registry.modify server.address fun _ => changed).servers := by
  obtain ⟨before, after, -, -, hmodify⟩ := hstaffed.exists_others hserver
  rw [hmodify]
  exact List.mem_append_right _ List.mem_cons_self

/-- A processor ends in a pass of its own that finds the queue idle, and in no other call. -/
theorem IsStaffed.idle_of_not_mem (hstaffed : matchmaker.IsStaffed config) {call : Call}
    (htakes : matchmaker.Takes now call next) {processor : Processor}
    (hlive : processor ∈ matchmaker.processors) (hended : processor.server ∉ next.staffed) :
    call = .pass processor ∧ ∃ server ∈ next.registry.servers,
      server.serial = processor.server ∧ server.queue.isIdle now ∧
      server.queue.processing = false := by
  have hstaff : processor.server ∈ matchmaker.staffed := List.mem_map_of_mem hlive
  -- Of the processors that run, a pass can only end the one that makes it.
  have hsame : ∀ passing ∈ matchmaker.processors,
      processor.server ∉ matchmaker.staffed.filter (· != passing.server) → passing = processor := by
    intro passing hpassing hgone
    have hserver : processor.server = passing.server := by simpa [hstaff] using hgone
    exact List.inj_on_of_nodup_map hstaffed.nodup_staffed hpassing hlive hserver.symm
  cases htakes with
  | nothing => exact absurd hstaff hended
  | registers mention nameHint => exact absurd hstaff hended
  | learns address haddress hserial hqueue => exact absurd hstaff hended
  | abandons hunknown =>
      rw [hstaffed.filter_of_unknown hunknown] at hended
      exact absurd hstaff hended
  | @works server operation processors hserver hworks =>
      cases hworks with
      | enqueue henqueue => exact absurd (mem_staffed_startProcessor hstaff _ now) hended
      | acknowledge server player result => exact absurd hstaff hended
      | dequeue server player reason => exact absurd hstaff hended
      | @rest passing _ hpassing hserial hidle =>
          rw [staffed, map_server_filter] at hended
          obtain rfl := hsame passing hpassing hended
          have hrequeued := server.requeued_operate now .process
          refine ⟨rfl, _, hstaffed.mem_replaced hserver _, ?_, hidle, ?_⟩
          · rw [hrequeued.eq_queue]
            exact hserial
          · rw [GameServer.processing_process, hidle, Bool.not_true, Bool.and_false]
      | @goOn passing _ hpassing hserial hbusy =>
          rw [staffed, List.map_append, map_server_filter, List.mem_append, not_or] at hended
          obtain rfl := hsame passing hpassing hended.1
          exact absurd (List.mem_singleton.mpr rfl) hended.2

/-! ## Times of changes -/

theorem Takes.nextSerial_le {call : Call} (htakes : matchmaker.Takes now call next) :
    matchmaker.registry.nextSerial ≤ next.registry.nextSerial := by
  cases htakes with
  | registers mention nameHint =>
      rw [Matchmaker.register]
      rcases Registry.getOrCreate_cases matchmaker.registry mention nameHint now with
        hsame | ⟨-, hcreated⟩
      · exact Nat.le_of_eq (congrArg Registry.nextSerial hsame).symm
      · rw [hcreated]
        exact Nat.le_succ _
  | _ => exact Nat.le_refl _

/-- A server that is not new has become of one with its serial, and a change of its queue is marked
with the time of the call. -/
theorem IsStaffed.exists_before (hstaffed : matchmaker.IsStaffed config) {call : Call}
    (htakes : matchmaker.Takes now call next) (hafter : changed ∈ next.registry.servers)
    (hold : changed.serial < matchmaker.registry.nextSerial) :
    ∃ before ∈ matchmaker.registry.servers, before.serial = changed.serial ∧
      before.queue.IsMarked changed.queue now := by
  have hkept : changed ∈ matchmaker.registry.servers → ∃ before ∈ matchmaker.registry.servers,
      before.serial = changed.serial ∧ before.queue.IsMarked changed.queue now := fun hserver =>
    ⟨changed, hserver, rfl, Or.inr ⟨rfl, rfl⟩⟩
  cases htakes with
  | nothing => exact hkept hafter
  | abandons hunknown => exact hkept hafter
  | registers mention nameHint =>
      rw [Matchmaker.register] at hafter
      rcases Registry.getOrCreate_cases matchmaker.registry mention nameHint now with
        hsame | ⟨-, hcreated⟩
      · exact hkept (hsame ▸ hafter)
      · rw [hcreated] at hafter
        rcases List.mem_append.mp hafter with hserver | hnew
        · exact hkept hserver
        · rw [List.mem_singleton.mp hnew] at hold
          exact absurd hold (Nat.lt_irrefl _)
  | learns address haddress hserial hqueue =>
      obtain ⟨before, hbefore, rfl⟩ := List.mem_map.mp hafter
      refine ⟨before, hbefore, ?_, Or.inr ?_⟩
      · split_ifs
        · exact (hserial before).symm
        · rfl
      · split_ifs
        · rw [hqueue]
          exact ⟨rfl, rfl⟩
        · exact ⟨rfl, rfl⟩
  | @works server operation processors hserver hworks =>
      obtain ⟨before, after, hservers, -, hmodify⟩ := hstaffed.exists_others hserver
      have hcases := List.perm_middle.subset (hmodify _ ▸ hafter)
      rcases List.mem_cons.mp hcases with rfl | hother
      · have hrequeued := server.requeued_operate now operation
        have horderly := (hstaffed.isTended server hserver).isOrderly
        refine ⟨server, hserver, ?_, GameServer.isMarked_operate horderly now operation⟩
        rw [hrequeued.eq_queue]
      · apply hkept
        rw [hservers]
        exact List.perm_middle.symm.subset (List.mem_cons_of_mem server hother)

theorem nextSerial_le_takeAll (matchmaker : Matchmaker) (calls : List (Nat × Call)) :
    matchmaker.registry.nextSerial ≤ (matchmaker.takeAll calls).registry.nextSerial := by
  induction calls generalizing matchmaker with
  | nil => exact Nat.le_refl _
  | cons call rest ih =>
      exact Nat.le_trans (matchmaker.takes_take call.1 call.2).nextSerial_le (ih _)

/-- Marks do not go back in time. -/
theorem IsStaffed.lastActivity_takeAll_ge (hstaffed : matchmaker.IsStaffed config)
    {serial moment : Nat} (hold : serial < matchmaker.registry.nextSerial)
    (hmarked : ∀ server ∈ matchmaker.registry.servers, server.serial = serial →
      moment ≤ server.queue.lastActivity)
    {calls : List (Nat × Call)} (hcalls : ∀ call ∈ calls, moment ≤ call.1) :
    ∀ server ∈ (matchmaker.takeAll calls).registry.servers, server.serial = serial →
      moment ≤ server.queue.lastActivity := by
  induction calls using List.reverseRecOn with
  | nil => exact hmarked
  | append_singleton calls last ih =>
      obtain ⟨now, call⟩ := last
      rw [List.forall_mem_append, List.forall_mem_singleton] at hcalls
      intro after hafter hserial
      rw [takeAll_concat] at hafter
      have hknown : after.serial < (matchmaker.takeAll calls).registry.nextSerial :=
        hserial ▸ Nat.lt_of_lt_of_le hold (nextSerial_le_takeAll matchmaker calls)
      obtain ⟨before, hbefore, hsame, hnow | ⟨-, hkept⟩⟩ :=
        (hstaffed.takeAll calls).exists_before (Matchmaker.takes_take _ now call) hafter hknown
      · rw [hnow]
        exact hcalls.2
      · rw [hkept]
        exact ih hcalls.1 before hbefore (hsame.trans hserial)

theorem run_append (config : QueueConfig) (calls others : List (Nat × Call)) :
    run config (calls ++ others) = (run config calls).takeAll others :=
  List.foldl_append

/-- What a run changed in a queue it changed no later than the queue says. -/
theorem le_lastActivity_run {calls earlier later : List (Nat × Call)} {moment : Nat} {call : Call}
    (hcalls : calls = earlier ++ (moment, call) :: later)
    (hlater : ∀ call ∈ later, moment ≤ call.1) {before after : GameServer}
    (hbefore : before ∈ (run config earlier).registry.servers)
    (hafter : after ∈ (run config (earlier ++ [(moment, call)])).registry.servers)
    (hsame : after.serial = before.serial)
    (hchanged : after.queue.entries ≠ before.queue.entries) :
    ∀ server ∈ (run config calls).registry.servers, server.serial = before.serial →
      moment ≤ server.queue.lastActivity := by
  have hstaffed := isStaffed_run config earlier
  have hknown : before.serial < (run config earlier).registry.nextSerial :=
    hstaffed.serial_lt _ (List.mem_map_of_mem hbefore)
  have hnext := isStaffed_run config (earlier ++ [(moment, call)])
  have hold : before.serial <
      (run config (earlier ++ [(moment, call)])).registry.nextSerial :=
    hsame ▸ hnext.serial_lt _ (List.mem_map_of_mem hafter)
  have hmark : after.queue.lastActivity = moment := by
    rw [run_append] at hafter
    obtain ⟨origin, horigin, hserial, hnow | ⟨hkept, -⟩⟩ :=
      hstaffed.exists_before (takes_take _ moment call) hafter (hsame ▸ hknown)
    · exact hnow
    · obtain rfl := List.inj_on_of_nodup_map hstaffed.nodup_serials horigin hbefore
        (hserial.trans hsame)
      exact absurd hkept hchanged
  have hrun : run config calls = (run config (earlier ++ [(moment, call)])).takeAll later := by
    rw [hcalls, ← run_append, List.append_assoc]
    rfl
  rw [hrun]
  refine hnext.lastActivity_takeAll_ge hold ?_ hlater
  intro server hserver hserial
  obtain rfl := List.inj_on_of_nodup_map hnext.nodup_serials hserver hafter
    (hserial.trans hsame.symm)
  exact Nat.le_of_eq hmark.symm

/-! ## Starts -/

/-- Joining a queue without a processor starts one for it. -/
theorem IsStaffed.processors_enqueue (hstaffed : matchmaker.IsStaffed config) {address : Endpoint}
    {player : PlayerId} {effects : List Effect}
    (hget : matchmaker.registry.get? address = some server)
    (hunflagged : server.queue.processing = false) (hinterval : config.processInterval ≠ 0)
    (henqueue : matchmaker.enqueue address player now = .ok (next, effects)) :
    next.processors = matchmaker.processors ++ [⟨server.serial, now⟩] := by
  obtain ⟨known, changed, events, hknown, -, rfl, -⟩ := enqueue_eq_ok henqueue
  obtain rfl := Option.some.inj (hget.symm.trans hknown)
  have hneeded : (server.queue.processing || !matchmaker.hasProcessors) = false := by
    rw [hunflagged, hstaffed.hasProcessors_eq]
    simpa using hinterval
  simp only [startProcessor, hneeded, Bool.false_eq_true, if_false]

/-! ## Runs -/

/-- In the course of any run a queue has one processor where it is marked as one that is looked
after, and none where it is not or where there is no time between two passes; and a queue with a
player in it is marked.  A processor ends in no call but a pass of its own, and then its queue is
empty and nothing has happened to its entries for the idle time.  A player who is let into a queue
that is not marked starts a processor. -/
theorem liveProcessors_run (config : QueueConfig) (calls : List (Nat × Call)) (now : Nat)
    (call : Call) (htimes : IsTimely (calls ++ [(now, call)])) :
    let matchmaker := run config calls
    let next := matchmaker.take now call
    (∀ server ∈ matchmaker.registry.servers,
      matchmaker.liveProcessors server =
        (if server.queue.processing ∧ config.processInterval ≠ 0 then 1 else 0) ∧
      (server.queue.players ≠ [] → server.queue.processing)) ∧
    (∀ processor ∈ matchmaker.processors, processor.server ∉ next.staffed →
      call = .pass processor ∧ ∃ server ∈ next.registry.servers,
        server.serial = processor.server ∧ server.queue.players = [] ∧
        server.queue.processing = false ∧
        config.idleTimeout ≤ now - server.queue.lastActivity ∧
        ∀ earlier moment past later, calls = earlier ++ (moment, past) :: later →
          ∀ before ∈ (run config earlier).registry.servers, before.serial = server.serial →
          ∀ after ∈ (run config (earlier ++ [(moment, past)])).registry.servers,
            after.serial = server.serial → after.queue.entries ≠ before.queue.entries →
            moment + config.idleTimeout ≤ now) ∧
    ∀ address player server next effects, matchmaker.registry.get? address = some server →
      server.queue.processing = false → config.processInterval ≠ 0 →
      matchmaker.enqueue address player now = .ok (next, effects) →
      next.processors = matchmaker.processors ++ [⟨server.serial, now⟩] := by
  intro matchmaker next
  have hstaffed : matchmaker.IsStaffed config := isStaffed_run config calls
  refine ⟨fun server hserver => ⟨hstaffed.liveProcessors_eq hserver,
    (hstaffed.isTended server hserver).processing⟩, ?_, ?_⟩
  · intro processor hlive hended
    obtain ⟨hcall, server, hserver, hserial, hidle, hunflagged⟩ :=
      hstaffed.idle_of_not_mem (matchmaker.takes_take now call) hlive hended
    have hnext := hstaffed.takes (matchmaker.takes_take now call)
    have hconfig := (hnext.isTended server hserver).config_eq
    rw [Queue.isIdle, Bool.and_eq_true, decide_eq_true_iff, hconfig] at hidle
    refine ⟨hcall, server, hserver, hserial, Queue.isEmpty_iff.mp hidle.1, hunflagged, hidle.2, ?_⟩
    intro earlier moment past later hcalls before hbefore hsame after hafter hsame' hchanged
    rw [IsTimely, hcalls, List.append_assoc, List.cons_append] at htimes
    have hlater := (List.pairwise_cons.mp (List.pairwise_append.mp htimes).2.1).1
    have hnow : moment ≤ now := hlater (now, call) (by simp)
    have hall : calls ++ [(now, call)] = earlier ++ (moment, past) :: (later ++ [(now, call)]) := by
      rw [hcalls, List.append_assoc, List.cons_append]
    have hend : server ∈ (run config (calls ++ [(now, call)])).registry.servers := by
      rw [run, takeAll_concat]
      exact hserver
    have hmoment := le_lastActivity_run hall hlater hbefore hafter (hsame'.trans hsame.symm)
      hchanged server hend hsame.symm
    have hlong := hidle.2
    omega
  · intro address player server next effects hget hunflagged hinterval henqueue
    exact hstaffed.processors_enqueue hget hunflagged hinterval henqueue

/-- A player who is let in and leaves at once: three minutes later the processor that came with the
player makes a pass and ends. -/
theorem liveProcessors_run_briefVisit :
    let calls : List (Nat × Call) := [(0, .register (.loopback 28960) ""),
      (0, .enqueue (.loopback 28960) 7), (1, .dequeue (.loopback 28960) 7 .userLeave)]
    let matchmaker := run {} calls
    let next := matchmaker.take 180001 (.pass ⟨0, 0⟩)
    IsTimely (calls ++ [(180001, .pass ⟨0, 0⟩)]) ∧
    matchmaker.processors = [⟨0, 0⟩] ∧ next.processors = [] ∧
    (∀ server ∈ matchmaker.registry.servers, matchmaker.liveProcessors server =
      if server.queue.processing ∧ ({} : QueueConfig).processInterval ≠ 0 then 1 else 0) ∧
    ∃ server ∈ next.registry.servers, server.serial = 0 ∧ server.queue.players = [] ∧
      server.queue.processing = false := by
  intro calls matchmaker next
  have htimes : IsTimely (calls ++ [(180001, .pass ⟨0, 0⟩)]) := by simp [IsTimely, calls]
  obtain ⟨hlive, hends, -⟩ := liveProcessors_run {} calls 180001 (.pass ⟨0, 0⟩) htimes
  obtain ⟨-, server, hserver, hserial, hempty, hunflagged, -, -⟩ :=
    hends ⟨0, 0⟩ (by decide) (by decide)
  exact ⟨htimes, by decide, by decide, fun server hserver => (hlive server hserver).1,
    server, hserver, hserial, hempty, hunflagged⟩

/-- Where there is no time between two passes, a queue with a player in it is marked and has no
processor. -/
theorem not_liveProcessors_eq_one_without_interval :
    let matchmaker := run { processInterval := 0 }
      [(0, .register (.loopback 28960) ""), (0, .enqueue (.loopback 28960) 7)]
    ¬ (∀ server ∈ matchmaker.registry.servers, server.queue.processing →
        matchmaker.liveProcessors server = 1) ∧
    matchmaker.registry.servers.map (·.queue.players) = [[7]] ∧
    matchmaker.processors = [] := by
  decide

end Muster.Matchmaker
