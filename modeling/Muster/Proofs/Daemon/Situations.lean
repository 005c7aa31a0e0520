import Muster.Proofs.Daemon.Ghosts
import Muster.Proofs.Matchmaker.Conduct

/-!
# Situations of players

What there is to one player in a daemon: the state of the session, the search, the place in line,
and what the messages under way say of the player.  For each player a step of the daemon is one of a
few turns.  Where nothing is under way any more, the state shows the place in line, and it shows the
search unless something was under way when the search started.
-/

namespace Muster

open AdmissionEvent (about)

def PlayerState.inLine? : PlayerState → Option (Endpoint × EntryState)
  | queued server => some (server, .waiting)
  | joining server => some (server, .joining)
  | _ => none

theorem PlayerState.inLine?_eq_waiting_iff {state : PlayerState} {server : Endpoint} :
    state.inLine? = some (server, .waiting) ↔ state = .queued server := by
  cases state <;> simp [inLine?]

theorem PlayerState.inLine?_eq_joining_iff {state : PlayerState} {server : Endpoint} :
    state.inLine? = some (server, .joining) ↔ state = .joining server := by
  cases state <;> simp [inLine?]

namespace Daemon

/-- The state after a change of a queue shows the place that the change tells of. -/
theorem inLine?_stateAfter (change : AdmissionEvent) :
    (stateAfter change).inLine? = change.place? := by
  obtain ⟨server, event⟩ := change
  cases event with
  | position | join => rfl
  | dequeued player reason => cases reason <;> rfl

theorem stateAfter_ne_matchmaking (change : AdmissionEvent) :
    stateAfter change ≠ .matchmaking := by
  obtain ⟨server, event⟩ := change
  cases event with
  | position | join => exact PlayerState.noConfusion
  | dequeued player reason => cases reason <;> exact PlayerState.noConfusion

end Daemon

/-! ## Tidings -/

def Mail.change? : Mail → Option AdmissionEvent
  | admission change => some change
  | _ => none

/-- What messages say of one player. -/
structure Tidings where
  /-- The changes of queues that concern the player. -/
  changes : List AdmissionEvent
  /-- A session of the player has ended. -/
  hasEnd : Bool

namespace Tidings

variable {player : PlayerId} {mails : List Mail}

def of (player : PlayerId) (mails : List Mail) : Tidings :=
  ⟨about player (mails.filterMap Mail.change?), mails.any (Mail.isEndFor player)⟩

theorem of_append (player : PlayerId) (mails others : List Mail) :
    of player (mails ++ others) = ⟨(of player mails).changes ++ (of player others).changes,
      (of player mails).hasEnd || (of player others).hasEnd⟩ := by
  rw [of, List.filterMap_append, AdmissionEvent.about_append, List.any_append]
  rfl

/-- Packets say nothing of anybody. -/
theorem of_insert_packet (player : PlayerId) (packet : Packet) (sender : Endpoint)
    (mails others : List Mail) :
    of player (mails ++ .packet packet sender :: others) = of player (mails ++ others) := by
  rw [of_append, of_append]
  rfl

theorem of_admissions (player : PlayerId) (changes : List AdmissionEvent) :
    of player (changes.map .admission) = ⟨about player changes, false⟩ := by
  rw [of, List.filterMap_map, List.any_map]
  congr 1
  · rw [show Mail.change? ∘ Mail.admission = some from rfl, List.filterMap_some]
  · rw [List.any_eq_false]
    intro change _
    exact Bool.false_ne_true

theorem exists_change (hchanges : (of player mails).changes ≠ []) :
    ∃ change, .admission change ∈ mails ∧ change.event.player = player := by
  obtain ⟨change, hchange⟩ := List.exists_mem_of_ne_nil _ hchanges
  obtain ⟨hmember, hplayer⟩ := List.mem_filter.mp hchange
  obtain ⟨mail, hmail, hchange⟩ := List.mem_filterMap.mp hmember
  cases mail with
  | admission other =>
      obtain rfl : other = change := Option.some.inj hchange
      exact ⟨other, hmail, beq_iff_eq.mp hplayer⟩
  | packet | sessionTimeout => exact absurd hchange (Option.some_ne_none change).symm

theorem exists_end (hend : (of player mails).hasEnd) :
    ∃ session, .sessionTimeout session ∈ mails ∧ session.id = player := by
  obtain ⟨mail, hmail, hplayer⟩ := List.any_eq_true.mp hend
  cases mail with
  | sessionTimeout session => exact ⟨session, hmail, beq_iff_eq.mp hplayer⟩
  | packet | admission => exact absurd hplayer Bool.false_ne_true

/-- Changes of queues come to be under way. -/
theorem of_append_admissions (player : PlayerId) (mails : List Mail)
    (changes : List AdmissionEvent) :
    of player (mails ++ changes.map .admission) =
      ⟨(of player mails).changes ++ about player changes, (of player mails).hasEnd⟩ := by
  rw [of_append, of_admissions, Bool.or_false]

theorem of_cons_admission_self {change : AdmissionEvent} (hplayer : change.event.player = player)
    (mails : List Mail) :
    of player (.admission change :: mails) =
      ⟨change :: (of player mails).changes, (of player mails).hasEnd⟩ := by
  have habout : about player (change :: mails.filterMap Mail.change?) =
      change :: about player (mails.filterMap Mail.change?) :=
    List.filter_cons_of_pos (beq_iff_eq.mpr hplayer)
  exact congrArg (Tidings.mk · (of player mails).hasEnd) habout

theorem of_cons_admission_other {change : AdmissionEvent} (hplayer : change.event.player ≠ player)
    (mails : List Mail) : of player (.admission change :: mails) = of player mails := by
  have habout : about player (change :: mails.filterMap Mail.change?) =
      about player (mails.filterMap Mail.change?) :=
    List.filter_cons_of_neg (mt beq_iff_eq.mp hplayer)
  exact congrArg (Tidings.mk · (of player mails).hasEnd) habout

theorem of_cons_end_other {session : Session} (hplayer : session.id ≠ player)
    (mails : List Mail) : of player (.sessionTimeout session :: mails) = of player mails := by
  have hother : (session.id == player) = false := beq_eq_false_iff_ne.mpr hplayer
  rw [of, List.any_cons, Mail.isEndFor, hother, Bool.false_or]
  rfl

theorem of_ends (player : PlayerId) (ended : List Session) :
    of player (ended.map .sessionTimeout) =
      ⟨[], ended.any fun session => session.id == player⟩ := by
  rw [of, List.filterMap_map, List.any_map]
  congr 1
  have hnone : ended.filterMap (Mail.change? ∘ Mail.sessionTimeout) = [] := by
    rw [List.filterMap_eq_nil_iff]
    intro session _
    rfl
  rw [hnone, AdmissionEvent.about_nil]

/-- Sessions end. -/
theorem of_insert_ends (player : PlayerId) (ended : List Session) (mails others : List Mail) :
    of player ((mails ++ ended.map .sessionTimeout) ++ others) =
      ⟨(of player (mails ++ others)).changes, (of player (mails ++ others)).hasEnd ||
        ended.any fun session => session.id == player⟩ := by
  simp only [of_append, of_ends, List.append_nil, Bool.or_right_comm]

end Tidings

/-! ## Situations -/

/-- What there is to a player. -/
structure Situation where
  /-- The state of the session, if there is one. -/
  state? : Option PlayerState
  isSearching : Bool
  /-- Where the player is in line. -/
  place? : Option (Endpoint × EntryState)
  /-- What is under way. -/
  pending : Tidings
  /-- What was under way when the player last started to search. -/
  amid : Tidings

namespace Situation

variable {situation next : Situation} {isSearching hasEnd : Bool} {state? : Option PlayerState}
  {place? : Option (Endpoint × EntryState)} {changes rest : List AdmissionEvent}
  {change : AdmissionEvent}

/-- Where the player is in line according to the state of the session. -/
def shown? (situation : Situation) : Option (Endpoint × EntryState) :=
  situation.state?.bind PlayerState.inLine?

/-- The player does not search while in line, and who does either has a session, or the end of one
is under way. -/
structure IsRegular (situation : Situation) : Prop where
  place?_eq_none : situation.isSearching → situation.place? = none
  attended : situation.isSearching ∨ situation.place?.isSome →
    situation.state?.isSome ∨ situation.pending.hasEnd

/-- What a step of the daemon comes to for one player. -/
inductive Turn (situation : Situation) : Situation → Prop where
  /-- The matchmaker does something, and the player is told of any change of the place in line. -/
  | told (isSearching : Bool) (place? : Option (Endpoint × EntryState))
      (changes : List AdmissionEvent) (hsilent : changes = [] → place? = situation.place?)
      (hlatest : ∀ change ∈ changes.getLast?, change.place? = place?)
      (hsearching : isSearching ↔ situation.isSearching ∧ changes = []) :
      Turn situation { situation with
        isSearching, place?
        pending := ⟨situation.pending.changes ++ changes, situation.pending.hasEnd⟩ }
  /-- The first change of a queue about the player is heard of. -/
  | heard {change : AdmissionEvent} {rest : List AdmissionEvent}
      (hpending : situation.pending.changes = change :: rest) :
      Turn situation { situation with
        state? := situation.state?.map fun _ => Daemon.stateAfter change
        pending := ⟨rest, situation.pending.hasEnd⟩ }
  | greeted (hnew : situation.state? = none) :
      Turn situation { situation with state? := some .idle }
  | entered (hout : situation.place? = none) :
      Turn situation { situation with
        state? := some .matchmaking, isSearching := true, amid := situation.pending }
  /-- The player leaves the search. -/
  | stopped (hsearching : situation.isSearching) :
      Turn situation { situation with state? := some .idle, isSearching := false }
  /-- The player is withdrawn, either by a farewell or because a session had ended. -/
  | withdrawn (state? : Option PlayerState) (changes : List AdmissionEvent) (hasEnd : Bool)
      (hsilent : changes = [] → situation.place? = none)
      (hlatest : ∀ change ∈ changes.getLast?, change.place? = none)
      (hstate : state? = none ∨ state? = situation.state? ∧ situation.pending.hasEnd) :
      Turn situation { situation with
        state?, isSearching := false, place? := none
        pending := ⟨situation.pending.changes ++ changes, hasEnd⟩ }
  /-- The session is swept away. -/
  | ended :
      Turn situation { situation with
        state? := none, pending := ⟨situation.pending.changes, true⟩ }

/-! ## Soundness -/

/-- How the state of the session, the search and the place in line agree. -/
structure IsSound (situation : Situation) : Prop where
  latest : ∀ change ∈ situation.pending.changes.getLast?, change.place? = situation.place?
  place?_of_shown : situation.pending.changes = [] →
    ∀ place, situation.shown? = some place → situation.place? = some place
  shown_of_place? : situation.pending.changes = [] → situation.pending.hasEnd = false →
    ∀ place, situation.place? = some place → situation.shown? = some place
  /-- A search shows if no change of a queue was under way when it started. -/
  matchmaking_of_isSearching : situation.isSearching → situation.amid.changes = [] →
    situation.pending.changes = [] ∧
      (situation.pending.hasEnd = false → situation.state? = some .matchmaking)
  /-- What looks like a search is one if no end of a session was under way when it started. -/
  isSearching_of_matchmaking : situation.state? = some .matchmaking →
    situation.isSearching ∨ situation.pending.changes ≠ [] ∨ situation.amid.hasEnd
  hasEnd_amid : situation.state? = some .matchmaking → situation.pending.hasEnd →
    situation.amid.hasEnd

/-- Messages about a player are sound when the latest tells where the player is now. -/
theorem IsSound.told (hsound : situation.IsSound)
    (hsilent : changes = [] → place? = situation.place?)
    (hlatest : ∀ change ∈ changes.getLast?, change.place? = place?)
    (hsearching : isSearching ↔ situation.isSearching ∧ changes = []) :
    IsSound { situation with
      isSearching, place?
      pending := ⟨situation.pending.changes ++ changes, situation.pending.hasEnd⟩ } := by
  have hquiet : situation.pending.changes ++ changes = [] →
      situation.pending.changes = [] ∧ place? = situation.place? := by
    intro hnone
    obtain ⟨hpending, hchanges⟩ := List.append_eq_nil_iff.mp hnone
    exact ⟨hpending, hsilent hchanges⟩
  constructor
  case latest => exact AdmissionEvent.place?_of_getLast?_append hsound.latest hsilent hlatest
  case place?_of_shown =>
    intro hnone place hshown
    obtain ⟨hpending, hplace⟩ := hquiet hnone
    exact hplace.trans (hsound.place?_of_shown hpending place hshown)
  case shown_of_place? =>
    intro hnone hend place hplace
    obtain ⟨hpending, hsame⟩ := hquiet hnone
    exact hsound.shown_of_place? hpending hend place (hsame.symm.trans hplace)
  case matchmaking_of_isSearching =>
    intro hsearches hamid
    obtain ⟨hbefore, hchanges⟩ := hsearching.mp hsearches
    obtain ⟨hpending, hstate⟩ := hsound.matchmaking_of_isSearching hbefore hamid
    exact ⟨List.append_eq_nil_iff.mpr ⟨hpending, hchanges⟩, hstate⟩
  case isSearching_of_matchmaking =>
    intro hstate
    by_cases hnone : situation.pending.changes ++ changes = []
    · obtain ⟨hpending, hchanges⟩ := List.append_eq_nil_iff.mp hnone
      rcases hsound.isSearching_of_matchmaking hstate with hbefore | hnews | hamid
      · exact Or.inl (hsearching.mpr ⟨hbefore, hchanges⟩)
      · exact absurd hpending hnews
      · exact Or.inr (Or.inr hamid)
    · exact Or.inr (Or.inl hnone)
  case hasEnd_amid => exact hsound.hasEnd_amid

/-- Once the last change has been heard of, the state shows what the change told of. -/
theorem IsSound.heard (hsound : situation.IsSound) (hregular : situation.IsRegular)
    (hpending : situation.pending.changes = change :: rest) :
    IsSound { situation with
      state? := situation.state?.map fun _ => Daemon.stateAfter change
      pending := ⟨rest, situation.pending.hasEnd⟩ } := by
  have hlast : rest = [] → change.place? = situation.place? := by
    intro hrest
    apply hsound.latest
    rw [hpending, hrest]
    rfl
  have hother : (situation.state?.map fun _ => Daemon.stateAfter change) ≠ some .matchmaking := by
    cases situation.state? with
    | none => exact (Option.some_ne_none _).symm
    | some state =>
        rw [Option.map_some, Ne, Option.some.injEq]
        exact Daemon.stateAfter_ne_matchmaking change
  constructor
  case latest =>
    intro last hlater
    apply hsound.latest
    rw [hpending, List.getLast?_cons, hlater]
    rfl
  case place?_of_shown =>
    intro hrest place hshown
    cases hstate : situation.state? with
    | none => simp [shown?, hstate] at hshown
    | some state =>
        rw [shown?, hstate, Option.map_some, Option.bind_some, Daemon.inLine?_stateAfter,
          hlast hrest] at hshown
        exact hshown
  case shown_of_place? =>
    intro hrest hend place hplace
    have hplaced : situation.place?.isSome := Option.isSome_of_eq_some hplace
    rcases hregular.attended (Or.inr hplaced) with hsession | hending
    · obtain ⟨state, hstate⟩ := Option.isSome_iff_exists.mp hsession
      rw [shown?, hstate, Option.map_some, Option.bind_some, Daemon.inLine?_stateAfter, hlast hrest]
      exact hplace
    · exact absurd hending (Bool.eq_false_iff.mp hend)
  case matchmaking_of_isSearching =>
    intro hsearches hamid
    have hnone := (hsound.matchmaking_of_isSearching hsearches hamid).1
    rw [hpending] at hnone
    exact absurd hnone (List.cons_ne_nil change rest)
  case isSearching_of_matchmaking => exact fun hstate => absurd hstate hother
  case hasEnd_amid => exact fun hstate => absurd hstate hother

theorem IsSound.greeted (hsound : situation.IsSound) (hregular : situation.IsRegular)
    (hnew : situation.state? = none) : IsSound { situation with state? := some .idle } := by
  -- Who had a place without a session has the end of one under way.
  have hgone : situation.isSearching ∨ situation.place?.isSome → situation.pending.hasEnd := by
    intro hplace
    have hattended := hregular.attended hplace
    rwa [hnew, Option.isSome_none, or_iff_right Bool.false_ne_true] at hattended
  constructor
  case latest => exact hsound.latest
  case place?_of_shown =>
    intro _ place hshown
    exact absurd hshown (Option.some_ne_none place).symm
  case shown_of_place? =>
    intro _ hend place hplace
    have hending := hgone (Or.inr (Option.isSome_of_eq_some hplace))
    exact absurd hending (Bool.eq_false_iff.mp hend)
  case matchmaking_of_isSearching =>
    intro hsearches hamid
    refine ⟨(hsound.matchmaking_of_isSearching hsearches hamid).1, ?_⟩
    intro hend
    exact absurd (hgone (Or.inl hsearches)) (Bool.eq_false_iff.mp hend)
  case isSearching_of_matchmaking =>
    intro hstate
    exact absurd (Option.some.inj hstate) PlayerState.noConfusion
  case hasEnd_amid =>
    intro hstate
    exact absurd (Option.some.inj hstate) PlayerState.noConfusion

/-- Whoever enters while in no line is sound, with the messages under way before the search. -/
theorem IsSound.entered (hsound : situation.IsSound) (hout : situation.place? = none) :
    IsSound { situation with
      state? := some .matchmaking, isSearching := true, amid := situation.pending } := by
  constructor
  case latest => exact hsound.latest
  case place?_of_shown =>
    intro _ place hshown
    exact absurd hshown (Option.some_ne_none place).symm
  case shown_of_place? =>
    intro _ _ place hplace
    exact absurd (hout.symm.trans hplace) (Option.some_ne_none place).symm
  case matchmaking_of_isSearching =>
    intro _ hnone
    exact ⟨hnone, fun _ => rfl⟩
  case isSearching_of_matchmaking => exact fun _ => Or.inl rfl
  case hasEnd_amid => exact fun _ hend => hend

/-- Whoever stops searching may be shown idle at once. -/
theorem IsSound.stopped (hsound : situation.IsSound) (hregular : situation.IsRegular)
    (hsearching : situation.isSearching) :
    IsSound { situation with state? := some .idle, isSearching := false } := by
  constructor
  case latest => exact hsound.latest
  case place?_of_shown =>
    intro _ place hshown
    exact absurd hshown (Option.some_ne_none place).symm
  case shown_of_place? =>
    intro _ _ place hplace
    have hout := hregular.place?_eq_none hsearching
    exact absurd (hout.symm.trans hplace) (Option.some_ne_none place).symm
  case matchmaking_of_isSearching => exact fun hsearches => absurd hsearches Bool.false_ne_true
  case isSearching_of_matchmaking =>
    intro hstate
    exact absurd (Option.some.inj hstate) PlayerState.noConfusion
  case hasEnd_amid =>
    intro hstate
    exact absurd (Option.some.inj hstate) PlayerState.noConfusion

/-- Who is withdrawn and keeps a session that looks like a search had started the search while the
end of a session was under way. -/
theorem IsSound.withdrawn (hsound : situation.IsSound)
    (hsilent : changes = [] → situation.place? = none)
    (hlatest : ∀ change ∈ changes.getLast?, change.place? = none)
    (hstate : state? = none ∨ state? = situation.state? ∧ situation.pending.hasEnd) :
    IsSound { situation with
      state?, isSearching := false, place? := none
      pending := ⟨situation.pending.changes ++ changes, hasEnd⟩ } := by
  have hkept : ∀ state, state? = some state →
      situation.state? = some state ∧ situation.pending.hasEnd := by
    intro state hsome
    rcases hstate with hnone | ⟨hsame, hend⟩
    · exact absurd (hnone.symm.trans hsome) (Option.some_ne_none state).symm
    · exact ⟨hsame.symm.trans hsome, hend⟩
  constructor
  case latest =>
    apply AdmissionEvent.place?_of_getLast?_append hsound.latest _ hlatest
    exact fun hnone => (hsilent hnone).symm
  case place?_of_shown =>
    intro hnone place hshown
    obtain ⟨hpending, hchanges⟩ := List.append_eq_nil_iff.mp hnone
    obtain ⟨state, hsome, hline⟩ := Option.bind_eq_some_iff.mp hshown
    have hbefore : situation.shown? = some place := by
      rw [shown?, (hkept state hsome).1, Option.bind_some, hline]
    have hplace := hsound.place?_of_shown hpending place hbefore
    exact absurd ((hsilent hchanges).symm.trans hplace) (Option.some_ne_none place).symm
  case shown_of_place? =>
    exact fun _ _ place hplace => absurd hplace (Option.some_ne_none place).symm
  case matchmaking_of_isSearching => exact fun hsearches => absurd hsearches Bool.false_ne_true
  case isSearching_of_matchmaking =>
    intro hmatchmaking
    obtain ⟨hbefore, hend⟩ := hkept _ hmatchmaking
    exact Or.inr (Or.inr (hsound.hasEnd_amid hbefore hend))
  case hasEnd_amid =>
    intro hmatchmaking _
    obtain ⟨hbefore, hend⟩ := hkept _ hmatchmaking
    exact hsound.hasEnd_amid hbefore hend

/-- A session that ends leaves the message about its end behind. -/
theorem IsSound.ended (hsound : situation.IsSound) :
    IsSound { situation with
      state? := none, pending := ⟨situation.pending.changes, true⟩ } := by
  constructor
  case latest => exact hsound.latest
  case place?_of_shown => exact fun _ place hshown => absurd hshown (Option.some_ne_none place).symm
  case shown_of_place? => exact fun _ hend => absurd hend.symm Bool.false_ne_true
  case matchmaking_of_isSearching =>
    intro hsearches hamid
    have hpending := (hsound.matchmaking_of_isSearching hsearches hamid).1
    exact ⟨hpending, fun hend => absurd hend.symm Bool.false_ne_true⟩
  case isSearching_of_matchmaking => exact fun hstate => absurd hstate (Option.some_ne_none _).symm
  case hasEnd_amid => exact fun hstate => absurd hstate (Option.some_ne_none _).symm

/-- Every turn keeps the situation of a player sound. -/
theorem Turn.isSound (hturn : Turn situation next) (hsound : situation.IsSound)
    (hregular : situation.IsRegular) : next.IsSound := by
  cases hturn with
  | told isSearching place? changes hsilent hlatest hsearching =>
      exact hsound.told hsilent hlatest hsearching
  | heard hpending => exact hsound.heard hregular hpending
  | greeted hnew => exact hsound.greeted hregular hnew
  | entered hout => exact hsound.entered hout
  | stopped hsearching => exact hsound.stopped hregular hsearching
  | withdrawn state? changes hasEnd hsilent hlatest hstate =>
      exact hsound.withdrawn hsilent hlatest hstate
  | ended => exact hsound.ended

end Situation

end Muster
