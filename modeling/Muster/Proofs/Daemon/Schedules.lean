import Mathlib.Logic.Relation
import Muster.Daemon.Run
import Muster.Proofs.Daemon.Runs
import Muster.Proofs.Registry.Reports

/-!
# Schedules

The daemon on a network, with its timers, takes the steps of which its runs consist.  Emptying the
mailbox is a sequence of messages that are taken out of it, closing a tick is a sequence of reports
that are stored, with the second half of the tick behind them, and the processors that are due make
their passes one after the other.  So whatever is kept by every step is kept on every schedule.
-/

namespace Muster

open Relation (ReflTransGen)

namespace Daemon

/-- Changes of the matchmaker do not interfere with effects that have not taken place. -/
theorem applyEffect_matchmaker (daemon : Daemon) (effect : Effect) (matchmaker : Matchmaker) :
    { daemon.applyEffect effect with matchmaker } =
      applyEffect { daemon with matchmaker } effect := by
  cases effect with
  | admission event => rfl
  | notify player event =>
      simp only [applyEffect, notify]
      cases daemon.sessions.outbound? player event <;> rfl

/-- Two changes of the matchmaker with their effects are one with the effects of both. -/
theorem become_become (daemon : Daemon) (first second : Matchmaker)
    (effects others : List Effect) :
    (daemon.become first effects).become second others =
      daemon.become second (effects ++ others) := by
  have hchange : ∀ start : Daemon, { effects.foldl applyEffect start with matchmaker := second } =
      effects.foldl applyEffect { start with matchmaker := second } := by
    induction effects with
    | nil => exact fun _ => rfl
    | cons effect rest ih =>
        intro start
        rw [List.foldl_cons, ih, applyEffect_matchmaker, List.foldl_cons]
  rw [become, become, become, List.foldl_append, hchange]

theorem World.Reachable.steps {config : DaemonConfig} {world other : World}
    (hreach : Reachable config world) (hsteps : ReflTransGen Step world other) :
    Reachable config other := by
  induction hsteps with
  | refl => exact hreach
  | tail _ hstep ih => exact ih.step hstep

end Daemon

namespace DaemonRun

variable {run next last : DaemonRun} {world : Daemon.World}

/-- The daemon of the run is the one of the world, where the snapshot of an open tick is known. -/
structure IsShown (run : DaemonRun) (world : Daemon.World) : Prop where
  daemon : world.daemon = run.daemon
  snapshot : ∀ tick, run.phase = .probing tick → tick.snapshot ∈ world.snapshots

/-- Steps of the daemon lead from wherever the one is shown to where the other is. -/
def Leads (run next : DaemonRun) : Prop :=
  ∀ world, run.IsShown world →
    ∃ other, ReflTransGen Daemon.World.Step world other ∧ next.IsShown other

theorem Leads.refl (run : DaemonRun) : run.Leads run :=
  fun world hshown => ⟨world, .refl, hshown⟩

theorem Leads.trans (hfirst : run.Leads next) (hsecond : next.Leads last) : run.Leads last := by
  intro world hshown
  obtain ⟨middle, hsteps, hmiddle⟩ := hfirst world hshown
  obtain ⟨other, hothers, hother⟩ := hsecond middle hmiddle
  exact ⟨other, hsteps.trans hothers, hother⟩

/-- No step is needed where the daemon stays as it is and no tick is opened. -/
theorem leads_of_daemon_eq (hdaemon : next.daemon = run.daemon)
    (hphase : ∀ tick, next.phase = .probing tick → run.phase = .probing tick) :
    run.Leads next := by
  intro world hshown
  refine ⟨world, .refl, hshown.daemon.trans hdaemon.symm, ?_⟩
  intro tick htick
  exact hshown.snapshot tick (hphase tick htick)

/-- A step that leaves the ticks alone. -/
theorem leads_of_step {daemon : Daemon}
    (hstep : ∀ world : Daemon.World, world.daemon = run.daemon →
      Daemon.World.Step world (world.after daemon)) :
    run.Leads { run with daemon } := by
  intro world hshown
  exact ⟨world.after daemon, .single (hstep world hshown.daemon), rfl, hshown.snapshot⟩

/-- One step for each element of a list. -/
theorem leads_foldl {α : Type} {step : Daemon → Daemon}
    (hstep : ∀ world : Daemon.World, Daemon.World.Step world (world.after (step world.daemon)))
    (items : List α) (run : DaemonRun) :
    run.Leads { run with daemon := items.foldl (fun daemon _ => step daemon) run.daemon } := by
  induction items generalizing run with
  | nil => exact .refl run
  | cons item rest ih =>
      refine Leads.trans (leads_of_step fun world hworld => ?_)
        (ih { run with daemon := step run.daemon })
      rw [← hworld]
      exact hstep world

/-! ## Messages -/

theorem leads_handleMailbox (run : DaemonRun) : run.Leads run.handleMailbox :=
  leads_foldl (fun _ => .handleNext 0 run.now) run.daemon.mailbox run

theorem leads_forwardAll (run : DaemonRun) : run.Leads run.forwardAll :=
  leads_foldl (fun _ => .forward) run.daemon.admissions run

theorem leads_drain (run : DaemonRun) : run.Leads run.drain :=
  ((leads_handleMailbox run).trans (leads_forwardAll _)).trans (leads_handleMailbox _)

/-! ## Ticks -/

def withRegistry (run : DaemonRun) (registry : Registry) : DaemonRun :=
  { run with daemon := { run.daemon with matchmaker := { run.daemon.matchmaker with registry } } }

/-- Results of a batch are stored one after the other. -/
theorem leads_takeResults {kind : ProbeKind} (run : DaemonRun) (asked : List Endpoint)
    (results : List (ProbeResult kind)) :
    run.Leads (run.withRegistry
      (Registry.takeResults asked results run.daemon.matchmaker.registry).1) := by
  apply Registry.takeResults_induction (fun registry => run.Leads (run.withRegistry registry)) _
    (Leads.refl run)
  intro registry result _ address _ report _ hleads
  refine hleads.trans (leads_of_step fun world hworld => ?_)
  have hstep : Daemon.World.Step world (world.afterMatchmaker { world.daemon.matchmaker with
      registry := world.daemon.matchmaker.registry.store kind address report result.time }) :=
    .store kind address report result.time
  rwa [Daemon.World.afterMatchmaker, hworld] at hstep

theorem leads_closeTick {tick : OpenTick} (hphase : run.phase = .probing tick) :
    run.Leads (run.closeTick tick) := by
  let infos := run.service.closeBatch tick.infos
  let statuses := infos.1.closeBatch tick.statuses
  let informed := (Registry.takeResults tick.addresses infos.2 run.daemon.matchmaker.registry).1
  let probed := (Registry.takeResults tick.addresses statuses.2 informed).1
  have hinformed : run.Leads (run.withRegistry informed) :=
    leads_takeResults run tick.addresses infos.2
  have hprobed : (run.withRegistry informed).Leads (run.withRegistry probed) :=
    leads_takeResults (run.withRegistry informed) tick.addresses statuses.2
  have hstored := hinformed.trans hprobed
  rw [closeTick]
  simp only
  split
  case h_1 => exact hstored.trans (leads_of_daemon_eq rfl fun _ htick => by cases htick)
  case h_2 views _ =>
    intro world hshown
    obtain ⟨other, hsteps, hother⟩ := hstored world hshown
    have hknown := hother.snapshot tick hphase
    refine ⟨_, hsteps.tail (.finishTick hknown views statuses.1.now), ?_, fun _ htick => ?_⟩
    · rw [hother.daemon]
      rfl
    · cases htick

/-- A tick that opens knows its snapshot. -/
theorem leads_openTick (run : DaemonRun) : run.Leads run.openTick := by
  have hbegins : ∀ (service : QueryService) (tick : OpenTick),
      tick.snapshot = run.daemon.matchmaker.pool →
      run.Leads { run.withRegistry (run.daemon.matchmaker.registry.getOrCreateAll
        (Matchmaker.namedServers run.daemon.matchmaker.pool) run.now) with
          service
          phase := .probing tick } := by
    intro service tick hsnapshot world hshown
    refine ⟨_, .single (.beginTick run.now), ?_, ?_⟩
    · simp only [Daemon.World.afterMatchmaker, Daemon.World.after, hshown.daemon, withRegistry]
    · intro other hother
      obtain rfl := TickPhase.probing.inj hother
      change tick.snapshot ∈ world.daemon.matchmaker.pool :: world.snapshots
      rw [hsnapshot, hshown.daemon]
      exact List.mem_cons_self
  simp only [openTick]
  split_ifs
  · exact (hbegins _ _ rfl).trans (leads_closeTick rfl)
  · exact hbegins _ _ rfl

theorem leads_stepTicks (run : DaemonRun) : run.Leads run.stepTicks := by
  rw [stepTicks]
  split
  case h_1 =>
    split_ifs
    · exact .refl run
    · exact leads_openTick run
  case h_2 tick hphase =>
    split_ifs
    · exact leads_closeTick hphase
    · exact .refl run
  case h_3 =>
    split_ifs
    · exact .refl run
    · exact leads_of_daemon_eq rfl (fun _ htick => by cases htick)
    · exact leads_openTick run
  case h_4 => exact .refl run

/-! ## Processors -/

def become (run : DaemonRun) (change : Matchmaker × List Effect) : DaemonRun :=
  { run with daemon := run.daemon.become change.1 change.2 }

theorem leads_runProcessor (run : DaemonRun) (processor : Processor) (now : Nat) :
    run.Leads (run.become (run.daemon.matchmaker.runProcessor processor now)) := by
  apply leads_of_step
  intro world hworld
  rw [← hworld]
  exact .process processor now

theorem leads_runPasses (server now limit : Nat) (run : DaemonRun) :
    run.Leads (run.become (Matchmaker.runPasses server now limit run.daemon.matchmaker)) := by
  induction limit generalizing run with
  | zero => exact .refl run
  | succ limit ih =>
      rw [Matchmaker.runPasses]
      simp only
      split
      case h_1 => exact .refl run
      case h_2 processor _ =>
        have hrest := ih (run.become (run.daemon.matchmaker.runProcessor processor now))
        rw [become, become, Daemon.become_become, Daemon.matchmaker_become] at hrest
        exact (leads_runProcessor run processor now).trans hrest

theorem leads_runProcessors (now : Nat) (processors : List Processor) (run : DaemonRun) :
    run.Leads (run.become (Matchmaker.runProcessors now processors run.daemon.matchmaker)) := by
  induction processors generalizing run with
  | nil => exact .refl run
  | cons processor rest ih =>
      let passes := Matchmaker.runPasses processor.server now (Processor.tolerance + 1)
        run.daemon.matchmaker
      have hrest := ih (run.become passes)
      rw [become, become, Daemon.become_become, Daemon.matchmaker_become] at hrest
      exact (leads_runPasses processor.server now (Processor.tolerance + 1) run).trans hrest

theorem leads_stepProcessors (run : DaemonRun) : run.Leads run.stepProcessors :=
  leads_runProcessors run.now (run.daemon.matchmaker.dueProcessors run.now) run

/-! ## Schedules -/

theorem leads_settle (run : DaemonRun) : run.Leads run.settle := by
  rw [settle]
  split_ifs
  · exact ((((leads_drain run).trans (leads_stepTicks _)).trans (leads_drain _)).trans
      (leads_stepProcessors _)).trans (leads_drain _)
  · exact .refl run

theorem leads_receive (run : DaemonRun) (datagram : List UInt8) (sender : Endpoint) :
    run.Leads (run.receive datagram sender) := by
  rw [receive]
  split_ifs
  · refine Leads.trans (leads_of_step fun world hworld => ?_) (leads_settle _)
    rw [← hworld]
    exact .receive datagram sender
  · exact .refl run

theorem leads_advance (run : DaemonRun) (milliseconds : Nat) :
    run.Leads (run.advance milliseconds) := by
  have hlater : run.Leads { run with service := run.service.advance milliseconds } :=
    leads_of_daemon_eq rfl fun _ htick => htick
  simp only [advance]
  split_ifs
  · refine (hlater.trans (leads_of_step fun world hworld => ?_)).trans (leads_settle _)
    rw [← hworld]
    exact .sweep _
  · exact hlater.trans (leads_settle _)

theorem leads_shutdown (run : DaemonRun) : run.Leads run.shutdown := by
  have hended : run.Leads { run with
      daemon := { run.daemon with matchmaker := run.daemon.matchmaker.shutdown } } := by
    apply leads_of_step
    intro world hworld
    rw [← hworld]
    exact .shutdown
  exact hended.trans (leads_of_daemon_eq rfl fun _ htick => htick)

theorem leads_takeOutbound (run : DaemonRun) : run.Leads run.takeOutbound.1 := by
  apply leads_of_step
  intro world hworld
  rw [← hworld]
  exact .takeOutbound

/-- A daemon with its timers on a network of which anything may become. -/
inductive Scheduled (config : DaemonConfig) : DaemonRun → Prop where
  | start (network : Network) : Scheduled config (start config network)
  | receive {run : DaemonRun} (hrun : Scheduled config run) (datagram : List UInt8)
      (sender : Endpoint) : Scheduled config (run.receive datagram sender)
  | advance {run : DaemonRun} (hrun : Scheduled config run) (milliseconds : Nat) :
      Scheduled config (run.advance milliseconds)
  | shutdown {run : DaemonRun} (hrun : Scheduled config run) : Scheduled config run.shutdown
  | takeOutbound {run : DaemonRun} (hrun : Scheduled config run) :
      Scheduled config run.takeOutbound.1
  | amend {run : DaemonRun} (hrun : Scheduled config run) (service : QueryService) :
      Scheduled config { run with service }

/-- Every schedule leads to a daemon to which steps lead, in whatever order they are taken. -/
theorem Scheduled.reachable {config : DaemonConfig} (hrun : Scheduled config run) :
    ∃ world, Daemon.World.Reachable config world ∧ run.IsShown world := by
  have hleads : ∀ {run next : DaemonRun}, run.Leads next →
      (∃ world, Daemon.World.Reachable config world ∧ run.IsShown world) →
      ∃ world, Daemon.World.Reachable config world ∧ next.IsShown world := by
    rintro run next hleads ⟨world, hreach, hshown⟩
    obtain ⟨other, hsteps, hother⟩ := hleads world hshown
    exact ⟨other, hreach.steps hsteps, hother⟩
  induction hrun with
  | start network => exact ⟨.start config, .start, rfl, fun _ htick => by cases htick⟩
  | receive _ datagram sender ih => exact hleads (leads_receive _ datagram sender) ih
  | advance _ milliseconds ih => exact hleads (leads_advance _ milliseconds) ih
  | shutdown _ ih => exact hleads (leads_shutdown _) ih
  | takeOutbound _ ih => exact hleads (leads_takeOutbound _) ih
  | @amend run _ service ih =>
      have hamended : run.Leads { run with service } :=
        leads_of_daemon_eq rfl fun _ htick => htick
      exact hleads hamended ih

/-- What holds of the daemon wherever steps lead holds of it on every schedule. -/
theorem Scheduled.of_reachable {config : DaemonConfig} {holds : Daemon → Prop}
    (hreachable : ∀ world, Daemon.World.Reachable config world → holds world.daemon)
    (hrun : Scheduled config run) : holds run.daemon := by
  obtain ⟨world, hreach, hshown⟩ := hrun.reachable
  rw [← hshown.daemon]
  exact hreachable world hreach

end DaemonRun

end Muster
