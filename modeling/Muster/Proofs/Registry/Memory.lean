import Muster.Proofs.Registry.Freshness

/-!
# What the registry remembers

Those who want the report of a server ask it, unless the stored report is recent enough.  A valid
answer is stored, any other outcome changes nothing.  So the report that is stored is always that of
the last valid answer, whoever asked for it, and with the time at which the answer came.
-/

namespace Muster

open Exchange

/-! ## Probes -/

/-- The body of an answer, and the round trip that was measured. -/
structure ProbeAnswer where
  body : String
  ping : UInt32

/-- What an answer of the server at an address reports, if it is valid. -/
def ProbeAnswer.report? (lead : HostPort → Option Endpoint) (kind : ProbeKind)
    (address : Endpoint) (answer : ProbeAnswer) : Option kind.Report :=
  (lead (.ofEndpoint address)).bind fun endpoint => kind.report? endpoint answer.body answer.ping

/-- A probe of a server that has come to its end, with an answer or without one. -/
structure EndedProbe where
  kind : ProbeKind
  address : Endpoint
  answer : Option ProbeAnswer
  time : Nat

/-- What an answer of the given kind that came from the given server reports, if it is valid, with
the time at which it came. -/
def EndedProbe.stamped? (lead : HostPort → Option Endpoint) (kind : ProbeKind)
    (address : Endpoint) (probe : EndedProbe) : Option (Stamped kind.Report) :=
  if probe.kind = kind ∧ probe.address = address then
    (probe.answer.bind (·.report? lead kind address)).map (⟨·, probe.time⟩)
  else none

/-- The report of the last valid answer of the given kind from the given server, with the time at
which it came. -/
def EndedProbe.lastValid? (lead : HostPort → Option Endpoint) (kind : ProbeKind)
    (address : Endpoint) (ended : List EndedProbe) : Option (Stamped kind.Report) :=
  (ended.filterMap (stamped? lead kind address)).getLast?

/-- The latest valid answer is that of the last probe, if it had one. -/
theorem EndedProbe.lastValid?_concat (lead : HostPort → Option Endpoint) (kind : ProbeKind)
    (address : Endpoint) (ended : List EndedProbe) (probe : EndedProbe) :
    lastValid? lead kind address (ended ++ [probe]) =
      (probe.stamped? lead kind address).or (lastValid? lead kind address ended) := by
  rw [lastValid?, List.filterMap_append, List.getLast?_append, lastValid?]
  congr 1
  cases hstamped : probe.stamped? lead kind address with
  | none => rw [List.filterMap_cons_none hstamped, List.filterMap_nil, List.getLast?_nil]
  | some stamped =>
      rw [List.filterMap_cons_some hstamped, List.filterMap_nil, List.getLast?_singleton]

/-- The registry among all who ask for reports. -/
structure ReportRun where
  registry : Registry
  now : Nat
  /-- The probes that have been begun, in their order: of what kind, and of which server. -/
  probed : List (ProbeKind × Endpoint)
  /-- The probes that have come to their end, in that order. -/
  ended : List EndedProbe

/-- What happens to the registry as reports are asked for. -/
inductive ReportEvent where
  | wait (milliseconds : Nat)
  /-- A server is registered, unless it is known. -/
  | register (mention : Endpoint) (nameHint : String)
  /-- Somebody wants reports of one or many servers that are at most so old. -/
  | ask (kind : ProbeKind) (addresses : List Endpoint) (maxAge : Option Nat)
  /-- A probe that has been begun comes to its end. -/
  | finish (kind : ProbeKind) (address : Endpoint) (answer : Option ProbeAnswer)

namespace ReportRun

def start (config : QueueConfig) (now : Nat) : ReportRun :=
  ⟨.empty config, now, [], []⟩

section

variable (lead : HostPort → Option Endpoint)

/-- What happens next.  Only servers that are known are asked. -/
def after (run : ReportRun) : ReportEvent → ReportRun
  | .wait milliseconds => { run with now := run.now + milliseconds }
  | .register mention nameHint =>
    { run with registry := run.registry.getOrCreate mention nameHint run.now }
  | .ask kind addresses maxAge =>
    let asked := (run.registry.stale kind addresses maxAge run.now).filter fun address =>
      (run.registry.get? address).isSome
    { run with probed := run.probed ++ asked.map fun address => (kind, address) }
  | .finish kind address answer =>
    if (kind, address) ∈ run.probed then
      { run with
        registry := (run.registry.conclude kind address
          (answer.bind (·.report? lead kind address)) run.now).1
        ended := run.ended ++ [⟨kind, address, answer, run.now⟩] }
    else run

def afterAll (run : ReportRun) (events : List ReportEvent) : ReportRun :=
  events.foldl (after lead) run

end

end ReportRun

namespace Registry

variable {registry : Registry} {kind : ProbeKind} {address : Endpoint}

/-! ## Registrations and probes -/

/-- Registering a server makes no difference to the reports. -/
theorem latest?_getOrCreate (registry : Registry) (mention : Endpoint) (nameHint : String)
    (now : Nat) (kind : ProbeKind) (address : Endpoint) :
    (registry.getOrCreate mention nameHint now).latest? kind address =
      registry.latest? kind address := by
  cases hget : registry.get? address with
  | some server =>
      rw [latest?, latest?, get?_getOrCreate_of_some mention nameHint now hget, hget]
  | none =>
      rw [latest?, latest?, hget, Option.bind_none]
      cases hnew : (registry.getOrCreate mention nameHint now).get? address with
      | none => rfl
      | some server =>
          rcases get?_getOrCreate hnew with hknown | ⟨-, serial, name, rfl⟩
          · rw [hget] at hknown
            cases hknown
          · cases kind <;> rfl

theorem isSome_get?_conclude (registry : Registry) (kind : ProbeKind) (address : Endpoint)
    (report : Option kind.Report) (now : Nat) (other : Endpoint) :
    ((registry.conclude kind address report now).1.get? other).isSome =
      (registry.get? other).isSome := by
  cases report with
  | none => rfl
  | some report => rw [conclude, get?_store, Option.isSome_map]

theorem latest?_conclude_of_ne (registry : Registry) (address : Endpoint)
    (report : Option kind.Report) (now : Nat) {shown : ProbeKind} {other : Endpoint}
    (hother : ¬(kind = shown ∧ address = other)) :
    (registry.conclude kind address report now).1.latest? shown other =
      registry.latest? shown other := by
  cases report with
  | none => rfl
  | some report =>
      rw [not_and_or] at hother
      exact latest?_store_of_ne registry address report now (hother.imp Ne.symm Ne.symm)

/-- A probe of a known server that has ended leaves the report that it has brought, or else the one
that was there. -/
theorem latest?_conclude_self (hknown : (registry.get? address).isSome)
    (report : Option kind.Report) (now : Nat) :
    (registry.conclude kind address report now).1.latest? kind address =
      (report.map (⟨·, now⟩)).or (registry.latest? kind address) := by
  cases report with
  | none => rfl
  | some report => exact latest?_store_self hknown report now

end Registry

namespace ReportRun

variable {lead : HostPort → Option Endpoint} {run : ReportRun} {kind : ProbeKind}
  {address : Endpoint}

/-! ## Every report is that of the last valid answer -/

/-- The stored reports are those of the last valid answers.  Servers that are asked are known, and
what has ended has ended in the past. -/
structure IsSteady (lead : HostPort → Option Endpoint) (run : ReportRun) : Prop where
  latest_eq : ∀ kind address, run.registry.latest? kind address =
    EndedProbe.lastValid? lead kind address run.ended
  known : ∀ kind address, (kind, address) ∈ run.probed → (run.registry.get? address).isSome
  past : ∀ probe ∈ run.ended, probe.time ≤ run.now

theorem isSteady_start (config : QueueConfig) (now : Nat) : (start config now).IsSteady lead where
  latest_eq := fun _ _ => rfl
  known := fun _ _ hprobed => absurd hprobed List.not_mem_nil
  past := fun _ hended => absurd hended List.not_mem_nil

/-- A probe that ends stores what it brought, if it was valid. -/
theorem isSteady_finish (hsteady : run.IsSteady lead) (kind : ProbeKind) (address : Endpoint)
    (answer : Option ProbeAnswer) :
    (run.after lead (.finish kind address answer)).IsSteady lead := by
  rw [after]
  split_ifs with hprobed
  · constructor
    case latest_eq =>
      intro shown other
      simp only [EndedProbe.lastValid?_concat, EndedProbe.stamped?]
      split_ifs with hsame
      · obtain ⟨rfl, rfl⟩ := hsame
        rw [Registry.latest?_conclude_self (hsteady.known kind address hprobed),
          hsteady.latest_eq]
      · rw [Option.none_or, Registry.latest?_conclude_of_ne _ _ _ _ hsame, hsteady.latest_eq]
    case known =>
      intro shown other hother
      rw [Registry.isSome_get?_conclude]
      exact hsteady.known shown other hother
    case past =>
      rw [List.forall_mem_append, List.forall_mem_singleton]
      exact ⟨hsteady.past, Nat.le_refl _⟩
  · exact hsteady

theorem isSteady_ask (hsteady : run.IsSteady lead) (kind : ProbeKind)
    (addresses : List Endpoint) (maxAge : Option Nat) :
    (run.after lead (.ask kind addresses maxAge)).IsSteady lead where
  latest_eq := hsteady.latest_eq
  known := by
    intro shown other hother
    rcases List.mem_append.mp hother with hearlier | hnew
    · exact hsteady.known shown other hearlier
    · obtain ⟨asked, hasked, hsame⟩ := List.mem_map.mp hnew
      rw [← (Prod.mk.inj hsame).2]
      exact (List.mem_filter.mp hasked).2
  past := hsteady.past

theorem isSteady_after (hsteady : run.IsSteady lead) (event : ReportEvent) :
    (run.after lead event).IsSteady lead := by
  cases event with
  | wait milliseconds =>
      exact ⟨hsteady.latest_eq, hsteady.known, fun probe hprobe =>
        Nat.le_add_right_of_le (hsteady.past probe hprobe)⟩
  | register mention nameHint =>
      constructor
      case latest_eq =>
        intro shown other
        exact (Registry.latest?_getOrCreate ..).trans (hsteady.latest_eq shown other)
      case known =>
        intro shown other hprobed
        obtain ⟨server, hget⟩ := Option.isSome_iff_exists.mp (hsteady.known shown other hprobed)
        rw [after, Registry.get?_getOrCreate_of_some mention nameHint run.now hget]
        rfl
      case past => exact hsteady.past
  | ask kind addresses maxAge => exact isSteady_ask hsteady kind addresses maxAge
  | finish kind address answer => exact isSteady_finish hsteady kind address answer

theorem isSteady_afterAll (hsteady : run.IsSteady lead) (events : List ReportEvent) :
    (run.afterAll lead events).IsSteady lead :=
  List.foldlRecOn (motive := fun run => IsSteady lead run) events _ hsteady
    fun _ hsteady event _ => isSteady_after hsteady event

/-! ## Reports stay -/

theorem IsSteady.storedAt_le (hsteady : run.IsSteady lead) {stamped : Stamped kind.Report}
    (hlatest : run.registry.latest? kind address = some stamped) : stamped.storedAt ≤ run.now := by
  rw [hsteady.latest_eq] at hlatest
  obtain ⟨probe, hprobe, hstamped⟩ :=
    List.mem_filterMap.mp (List.mem_of_getLast? hlatest)
  rw [EndedProbe.stamped?] at hstamped
  split_ifs at hstamped
  obtain ⟨report, -, rfl⟩ := Option.map_eq_some_iff.mp hstamped
  exact hsteady.past probe hprobe

/-- A report gives way to a later one only. -/
theorem IsSteady.exists_later (hsteady : run.IsSteady lead) (event : ReportEvent)
    {stamped : Stamped kind.Report}
    (hlatest : run.registry.latest? kind address = some stamped) :
    ∃ later, (run.after lead event).registry.latest? kind address = some later ∧
      stamped.storedAt ≤ later.storedAt := by
  cases event with
  | wait milliseconds => exact ⟨stamped, hlatest, Nat.le_refl _⟩
  | register mention nameHint =>
      refine ⟨stamped, ?_, Nat.le_refl _⟩
      exact (Registry.latest?_getOrCreate ..).trans hlatest
  | ask kind addresses maxAge => exact ⟨stamped, hlatest, Nat.le_refl _⟩
  | finish asked reporter answer =>
      rw [after]
      split_ifs with hprobed
      · by_cases hsame : asked = kind ∧ reporter = address
        · obtain ⟨rfl, rfl⟩ := hsame
          simp only
          rw [Registry.latest?_conclude_self (hsteady.known asked reporter hprobed), hlatest]
          cases answer.bind (·.report? lead asked reporter) with
          | none => exact ⟨stamped, rfl, Nat.le_refl _⟩
          | some report => exact ⟨⟨report, run.now⟩, rfl, hsteady.storedAt_le hlatest⟩
        · refine ⟨stamped, ?_, Nat.le_refl _⟩
          exact (Registry.latest?_conclude_of_ne _ _ _ _ hsame).trans hlatest
      · exact ⟨stamped, hlatest, Nat.le_refl _⟩

/-- A stored report gives way only to a later one. -/
theorem IsSteady.exists_later_afterAll (hsteady : run.IsSteady lead) (events : List ReportEvent)
    {stamped : Stamped kind.Report}
    (hlatest : run.registry.latest? kind address = some stamped) :
    ∃ later, (run.afterAll lead events).registry.latest? kind address = some later ∧
      stamped.storedAt ≤ later.storedAt := by
  induction events generalizing run stamped with
  | nil => exact ⟨stamped, hlatest, Nat.le_refl _⟩
  | cons event rest ih =>
      obtain ⟨next, hnext, hle⟩ := hsteady.exists_later event hlatest
      obtain ⟨later, hlater, hlast⟩ := ih (isSteady_after hsteady event) hnext
      exact ⟨later, hlater, Nat.le_trans hle hlast⟩

end ReportRun

end Muster
