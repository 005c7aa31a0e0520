import Muster.Proofs.Lookup.Inquiries

/-!
# Names

Whoever asks a resolver for a name is told what the system has answered for it, either just now or
so lately that the answer is still kept.  Dropping answers whose time is over makes no difference to
what anybody is told or to what the system is asked.
-/

namespace Muster.ResolverRun

open Inquiry Resolver

variable {config : ResolverConfig} {system : SystemLookup} {run other : ResolverRun}
  {host : String} {port : UInt16}

/-! ## Dropping what has expired -/

/-- The same happens at the same time, whatever is still kept. -/
structure SameCourse (left right : ResolverRun) : Prop where
  now_eq : left.now = right.now
  underWay_eq : left.underWay = right.underWay
  told_eq : left.told = right.told

theorem SameCourse.refl (run : ResolverRun) : SameCourse run run :=
  ⟨rfl, rfl, rfl⟩

theorem SameCourse.symm (hsame : SameCourse run other) : SameCourse other run :=
  ⟨hsame.now_eq.symm, hsame.underWay_eq.symm, hsame.told_eq.symm⟩

theorem SameCourse.trans {last : ResolverRun} (hsame : SameCourse run other)
    (hlast : SameCourse other last) : SameCourse run last :=
  ⟨hsame.now_eq.trans hlast.now_eq, hsame.underWay_eq.trans hlast.underWay_eq,
    hsame.told_eq.trans hlast.told_eq⟩

/-- What is still kept beyond its time makes no difference to what happens next. -/
theorem SameCourse.after (hsame : SameCourse run other) (hrun : run.IsSound config system)
    (hother : other.IsSound config system) (event : ResolverEvent) :
    SameCourse (run.after system event) (other.after system event) := by
  obtain ⟨hnow, hunderWay, htold⟩ := hsame
  cases event with
  | wait milliseconds =>
      exact ⟨congrArg (· + milliseconds) hnow, hunderWay, htold⟩
  | purge => exact ⟨hnow, hunderWay, htold⟩
  | ask host port =>
      rw [ResolverRun.after, ResolverRun.after, hrun.known?_eq, hother.known?_eq, hnow, htold]
      cases recalled? config other.told host port other.now with
      | some endpoint =>
          exact ⟨hnow, hunderWay, by simp only [ResolverRun.tell, hnow, htold]⟩
      | none =>
          exact ⟨hnow, by simp only [ResolverRun.askSystem, hunderWay], htold⟩
  | answer place =>
      rw [ResolverRun.after, ResolverRun.after, hunderWay]
      cases other.underWay[place]? with
      | none => exact ⟨hnow, hunderWay, htold⟩
      | some question =>
          exact ⟨hnow, rfl, by simp only [ResolverRun.tell, learn, hnow, htold]⟩

/-- A run goes on as it would if nothing were ever dropped. -/
theorem SameCourse.afterAll (hsystem : system.IgnoresCase) (hrun : run.IsSound config system)
    (hother : other.IsSound config system) (hsame : SameCourse run other)
    (events : List ResolverEvent) :
    SameCourse (run.afterAll system events)
      (other.afterAll system (events.filter fun event => !event.isPurge)) := by
  induction events generalizing run other with
  | nil => exact hsame
  | cons event rest ih =>
      cases hpurge : event.isPurge with
      | true =>
          cases event with
          | purge =>
              exact ih hrun.purge hother ⟨hsame.now_eq, hsame.underWay_eq, hsame.told_eq⟩
          | _ => exact absurd hpurge (by simp [ResolverEvent.isPurge])
      | false =>
          rw [List.filter_cons_of_pos (by simp [hpurge])]
          exact ih (hrun.after hsystem event) (hother.after hsystem event)
            (hsame.after hrun hother event)

/-! ## Asking -/

/-- The system is asked exactly if nothing is kept that may still be told. -/
theorem after_ask_eq_askSystem_iff :
    run.after system (.ask host port) = run.askSystem ⟨host, port, run.now⟩ ↔
      run.resolver.known? host port run.now = none := by
  rw [ResolverRun.after]
  cases run.resolver.known? host port run.now with
  | none => exact iff_of_true rfl rfl
  | some endpoint =>
      refine iff_of_false (fun hsame => ?_) (by simp)
      have htold := congrArg ResolverRun.told hsame
      exact absurd (List.append_right_eq_self.mp htold) (by simp)

theorem IsSound.after_ask_eq_askSystem_iff (hsound : run.IsSound config system) :
    run.after system (.ask host port) = run.askSystem ⟨host, port, run.now⟩ ↔
      Ip.ofText? host = none ∧ ∀ lookup, latestLookup? run.told host port = some lookup →
        lookup.expiresAt config ≤ run.now := by
  rw [ResolverRun.after_ask_eq_askSystem_iff, hsound.known?_eq, recalled?_eq_none_iff]

/-- Whoever asks is met as the answers kept require. -/
theorem IsSound.meets (hsound : run.IsSound config system) (host : String) (port : UInt16) :
    run.Meets config system host port where
  address := by
    intro ip haddress
    rw [ResolverRun.after, known?, haddress]
  lookup_iff := hsound.after_ask_eq_askSystem_iff
  resolve_eq := by
    rw [ResolverRun.afterAll, List.foldl_cons, List.foldl_cons, List.foldl_nil, resolve,
      ResolverRun.after]
    cases run.resolver.known? host port run.now with
    | some endpoint => simp [ResolverRun.after, ResolverRun.tell]
    | none => simp [ResolverRun.after, ResolverRun.askSystem, ResolverRun.tell,
        List.eraseIdx_append_of_length_le]

/-! ## Asking in turn -/

/-- Every answer of the system but the latest for a name had expired when the next one came, and the
latest has if the system is being asked again. -/
structure IsRenewed (config : ResolverConfig) (run : ResolverRun) : Prop where
  renewed : run.told.Pairwise fun earlier later => earlier.isLookup → later.isLookup →
    later.isFor earlier.host earlier.port → earlier.expiresAt config ≤ later.toldAt
  awaited : ∀ question ∈ run.underWay, ∀ lookup ∈ run.told, lookup.isLookup →
    lookup.isFor question.host question.port → lookup.expiresAt config ≤ run.now
  distinct : run.underWay.Pairwise fun question other =>
    other.isFor question.host question.port = false

theorem isRenewed_start (config : ResolverConfig) (now : Nat) :
    (start config now).IsRenewed config where
  renewed := .nil
  awaited := fun _ hquestion => absurd hquestion List.not_mem_nil
  distinct := .nil

/-- If the latest answer for a name has expired, all have. -/
theorem IsRenewed.expired (hrenewed : run.IsRenewed config) (hsound : run.IsSound config system)
    (hlatest : ∀ lookup, latestLookup? run.told host port = some lookup →
      lookup.expiresAt config ≤ run.now) {lookup : Inquiry} (htold : lookup ∈ run.told)
    (hlookup : lookup.isLookup) (hfor : lookup.isFor host port) :
    lookup.expiresAt config ≤ run.now := by
  obtain ⟨latest, hfound, rfl | hfollows⟩ :=
    exists_latestLookup? hrenewed.renewed htold hlookup hfor
  · exact hlatest lookup hfound
  · obtain ⟨hmember, hislookup, hsame⟩ := mem_of_latestLookup? hfound
    have hown := hfollows hlookup hislookup (Question.isFor_of_isFor hsame hfor)
    exact Nat.le_trans hown (hsound.past latest hmember)

theorem IsRenewed.tell (hrenewed : run.IsRenewed config) (question : Question)
    (endpoint : Option Endpoint) : (run.tell question false endpoint).IsRenewed config where
  renewed := by
    rw [ResolverRun.tell, List.pairwise_append]
    refine ⟨hrenewed.renewed, List.pairwise_singleton _ _, ?_⟩
    intro earlier _ later hlater _ hlookup
    rw [List.mem_singleton.mp hlater] at hlookup
    exact absurd hlookup Bool.false_ne_true
  awaited := by
    intro question hquestion lookup htold hlookup
    rcases List.mem_append.mp htold with hearlier | hnew
    · exact hrenewed.awaited question hquestion lookup hearlier hlookup
    · rw [List.mem_singleton.mp hnew] at hlookup
      exact absurd hlookup Bool.false_ne_true
  distinct := hrenewed.distinct

/-- The system is asked again only once the latest answer has expired. -/
theorem IsRenewed.askSystem (hrenewed : run.IsRenewed config) (hsound : run.IsSound config system)
    (hfree : run.isFree (.ask host port))
    (hlatest : ∀ lookup, latestLookup? run.told host port = some lookup →
      lookup.expiresAt config ≤ run.now) :
    (run.askSystem ⟨host, port, run.now⟩).IsRenewed config where
  renewed := hrenewed.renewed
  awaited := by
    intro question hquestion lookup htold hlookup hfor
    rcases List.mem_append.mp hquestion with hearlier | hnew
    · exact hrenewed.awaited question hearlier lookup htold hlookup hfor
    · rw [List.mem_singleton.mp hnew] at hfor
      exact hrenewed.expired hsound hlatest htold hlookup hfor
  distinct := by
    rw [ResolverRun.askSystem, List.pairwise_append]
    refine ⟨hrenewed.distinct, List.pairwise_singleton _ _, ?_⟩
    intro question hquestion new hnew
    rw [List.mem_singleton.mp hnew, Bool.eq_false_iff]
    intro hsame
    have hown := Question.isFor_symm hsame
    rw [hfree question hquestion] at hown
    exact absurd hown Bool.false_ne_true

/-- What is answered next has been asked because nothing was kept. -/
theorem IsRenewed.answer (hrenewed : run.IsRenewed config) (place : Nat) :
    (run.after system (.answer place)).IsRenewed config := by
  rw [ResolverRun.after]
  cases hplace : run.underWay[place]? with
  | none => exact hrenewed
  | some question =>
      have hquestion := List.mem_of_getElem? hplace
      obtain ⟨hbound, hown⟩ := List.getElem?_eq_some_iff.mp hplace
      have hperm := List.getElem_cons_eraseIdx_perm hbound
      rw [hown] at hperm
      have hpairs := (hperm.pairwise_iff Question.isFor_eq_false_symm).mpr hrenewed.distinct
      have hothers := (List.pairwise_cons.mp hpairs).1
      constructor
      case renewed =>
        refine List.pairwise_append.mpr ⟨hrenewed.renewed, List.pairwise_singleton _ _, ?_⟩
        intro earlier hearlier later hlater hlookup _ hsame
        rw [List.mem_singleton.mp hlater] at hsame ⊢
        exact hrenewed.awaited question hquestion earlier hearlier hlookup
          (Question.isFor_symm hsame)
      case awaited =>
        intro other hother lookup htold hlookup hfor
        rcases List.mem_append.mp htold with hearlier | hnew
        · have hearlierAsked := List.mem_of_mem_eraseIdx hother
          exact hrenewed.awaited other hearlierAsked lookup hearlier hlookup hfor
        · rw [List.mem_singleton.mp hnew] at hfor
          have hsame := Question.isFor_symm hfor
          rw [hothers other hother] at hsame
          exact absurd hsame Bool.false_ne_true
      case distinct => exact hrenewed.distinct.sublist (List.eraseIdx_sublist _ _)

theorem IsRenewed.after (hrenewed : run.IsRenewed config) (hsound : run.IsSound config system)
    {event : ResolverEvent} (hfree : run.isFree event) :
    (run.after system event).IsRenewed config := by
  cases event with
  | wait milliseconds =>
      exact { hrenewed with
        awaited := fun question hquestion lookup htold hlookup hfor =>
          Nat.le_add_right_of_le (hrenewed.awaited question hquestion lookup htold hlookup hfor) }
  | purge => exact { hrenewed with }
  | ask host port =>
      rw [ResolverRun.after, hsound.known?_eq]
      cases hrecalled : recalled? config run.told host port run.now with
      | some endpoint => exact hrenewed.tell _ endpoint
      | none => exact hrenewed.askSystem hsound hfree (recalled?_eq_none_iff.mp hrecalled).2
  | answer place => exact hrenewed.answer place

/-- Every event meets a resolver whose answers are renewed, as nobody asks for a name while the
system is being asked for it. -/
theorem IsRenewed.afterAll (hrenewed : run.IsRenewed config) (hsound : run.IsSound config system)
    (hsystem : system.IgnoresCase) {events : List ResolverEvent}
    (hturn : run.IsInTurn system events) : (run.afterAll system events).IsRenewed config := by
  induction events generalizing run with
  | nil => exact hrenewed
  | cons event rest ih =>
      exact ih (hrenewed.after hsound hturn.1) (hsound.after hsystem event) hturn.2

/-- Everybody who asks is answered before anything else happens. -/
inductive IsPrompt : List ResolverEvent → Prop
  | nil : IsPrompt []
  | wait (milliseconds : Nat) {rest : List ResolverEvent} (hrest : IsPrompt rest) :
      IsPrompt (.wait milliseconds :: rest)
  | purge {rest : List ResolverEvent} (hrest : IsPrompt rest) : IsPrompt (.purge :: rest)
  | resolve (host : String) (port : UInt16) {rest : List ResolverEvent} (hrest : IsPrompt rest) :
      IsPrompt (.ask host port :: .answer 0 :: rest)

theorem IsPrompt.isInTurn {events : List ResolverEvent} (hprompt : IsPrompt events)
    (system : SystemLookup) (hnothing : run.underWay = []) : run.IsInTurn system events := by
  induction hprompt generalizing run with
  | nil => trivial
  | wait milliseconds _ ih => exact ⟨trivial, ih hnothing⟩
  | purge _ ih => exact ⟨trivial, ih hnothing⟩
  | resolve host port _ ih =>
      have hfree : run.isFree (.ask host port) := by
        intro question hquestion
        rw [hnothing] at hquestion
        exact absurd hquestion List.not_mem_nil
      refine ⟨hfree, trivial, ih ?_⟩
      simp only [ResolverRun.after]
      cases run.resolver.known? host port run.now with
      | some endpoint => simp [ResolverRun.tell, hnothing]
      | none => simp [ResolverRun.askSystem, ResolverRun.tell, hnothing]

/-- Whoever asks a resolver is told what the system has answered for the name, just now or so lately
that it is still kept; the system is asked only where its latest answer is not kept any more, which
means that none is if nobody asks for a name while the system is being asked for it; and nobody can
tell when anything is dropped. -/
theorem tells_kept_or_looked_up (config : ResolverConfig) {system : SystemLookup}
    (hsystem : system.IgnoresCase) (now : Nat) (events : List ResolverEvent) :
    let run := (start config now).afterAll system events
    (∀ inquiry ∈ run.told, inquiry.IsExact config system run.told) ∧
      (∀ host port, run.Meets config system host port) ∧
      ((start config now).IsInTurn system events → ∀ host port,
        (run.after system (.ask host port) = run.askSystem ⟨host, port, run.now⟩ ↔
          Ip.ofText? host = none ∧ ∀ lookup ∈ run.told, lookup.isLookup →
            lookup.isFor host port → lookup.expiresAt config ≤ run.now)) ∧
      ∀ others, others.filter (!·.isPurge) = events.filter (!·.isPurge) →
        SameCourse ((start config now).afterAll system others) run := by
  intro run
  have hstart := isSound_start config system now
  have hsound := hstart.afterAll hsystem events
  refine ⟨hsound.exact, hsound.meets, fun hturn host port => ?_, fun others hothers => ?_⟩
  · have hrenewed := (isRenewed_start config now).afterAll hstart hsystem hturn
    rw [hsound.after_ask_eq_askSystem_iff]
    refine and_congr_right fun _ => ⟨fun hlatest lookup htold hlookup hfor => ?_,
      fun hall lookup hlatest => ?_⟩
    · exact hrenewed.expired hsound hlatest htold hlookup hfor
    · obtain ⟨htold, hlookup, hfor⟩ := mem_of_latestLookup? hlatest
      exact hall lookup htold hlookup hfor
  · have hsame := SameCourse.afterAll hsystem hstart hstart (.refl _) others
    have hrun := SameCourse.afterAll hsystem hstart hstart (.refl _) events
    rw [hothers] at hsame
    exact hsame.trans hrun.symm

def newName : SystemLookup := fun time host port =>
  if foldName host = "game.example" ∧ 100 ≤ time then
    [.ofIp (.v6 0x2001 0xDB8 0 0 0 0 0 1) port, .ofIp (.v4 10 0 0 1) port]
  else []

/-- The name is unknown, and soon it is asked for again; once that may be forgotten, it is known,
and it is asked for again at the last moment at which that is still kept. -/
def newNameEvents : List ResolverEvent :=
  [.ask "Game.Example" 28960, .answer 0, .wait 99, .purge, .ask "game.example" 28960, .answer 0,
    .wait 21, .purge, .ask "game.example" 28960, .answer 0, .wait 599, .purge,
    .ask "GAME.EXAMPLE" 28960, .answer 0, .ask "10.0.0.7" 28960, .answer 0, .wait 1]

def newNameRun : ResolverRun :=
  (start ⟨600, 120⟩ 0).afterAll newName newNameEvents

/-- A name that is unknown is forgotten sooner than one that is known, and then the system is asked
again. -/
theorem tells_kept_or_looked_up_newName :
    newName.IgnoresCase ∧
      newNameRun.told.map (fun inquiry => (inquiry.isLookup, inquiry.endpoint)) =
        [(true, none), (false, none), (true, some (.ofIp (.v4 10 0 0 1) 28960)),
          (false, some (.ofIp (.v4 10 0 0 1) 28960)),
          (false, some (.ofIp (.v4 10 0 0 7) 28960))] ∧
      newNameRun.after newName (.ask "game.example" 28960) =
        newNameRun.askSystem ⟨"game.example", 28960, 720⟩ ∧
      SameCourse
        ((start ⟨600, 120⟩ 0).afterAll newName (newNameEvents.filter (!·.isPurge)))
        newNameRun := by
  have hsystem : newName.IgnoresCase := by
    intro time host other port hsame
    rw [newName, newName, hsame]
  have hprompt : IsPrompt newNameEvents :=
    .resolve _ _ (.wait _ (.purge (.resolve _ _ (.wait _ (.purge (.resolve _ _ (.wait _ (.purge
      (.resolve _ _ (.resolve _ _ (.wait _ .nil)))))))))))
  obtain ⟨-, -, hasks, hpurge⟩ := tells_kept_or_looked_up ⟨600, 120⟩ hsystem 0 newNameEvents
  have hasked := (hasks (hprompt.isInTurn newName rfl) "game.example" 28960).mpr
    ⟨by decide +kernel, by decide +kernel⟩
  have hsame : (newNameEvents.filter (!·.isPurge)).filter (!·.isPurge) =
      newNameEvents.filter (!·.isPurge) := by
    simp
  exact ⟨hsystem, by decide +kernel, hasked, hpurge _ hsame⟩

end Muster.ResolverRun
