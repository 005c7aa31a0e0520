import Muster.Proofs.Daemon.Situations

/-!
# What handling a message comes to for each player

A message concerns one player at most; for this player handling it is a turn of its own, and for all
others the matchmaker does what it makes known.
-/

namespace Muster

open AdmissionEvent (about)

variable {player : PlayerId} {now : Nat}

namespace Situation

variable {situation : Situation} {before after : Matchmaker}
  {states states' : PlayerId → Option PlayerState} {mails mails' : List Mail}
  {changes : List AdmissionEvent}

def of (player : PlayerId) (states : PlayerId → Option PlayerState) (matchmaker : Matchmaker)
    (mails : List Mail) (amid : Tidings) : Situation :=
  ⟨states player, matchmaker.isSearching player, matchmaker.inLine? player, .of player mails, amid⟩

/-- The situation after a step.  Who searches now and did not before has just started. -/
def become (situation : Situation) (player : PlayerId) (states : PlayerId → Option PlayerState)
    (matchmaker : Matchmaker) (mails : List Mail) : Situation :=
  of player states matchmaker mails
    (if matchmaker.isSearching player && !situation.isSearching then .of player mails
    else situation.amid)

/-- The situation after a step in which no search starts. -/
theorem become_eq (hsearching : after.isSearching player → situation.isSearching) :
    situation.become player states after mails =
      ⟨states player, after.isSearching player, after.inLine? player, .of player mails,
        situation.amid⟩ := by
  rw [become, of]
  congr 1
  apply if_neg
  intro hstarts
  rw [Bool.and_eq_true, Bool.not_eq_true'] at hstarts
  exact Bool.eq_false_iff.mp hstarts.2 (hsearching hstarts.1)

/-- A step in which the matchmaker makes known what it does, and the state of the session does not
change. -/
theorem turn_told {amid : Tidings} (hstate : states' player = states player)
    (hmails : Tidings.of player mails' =
      ⟨(Tidings.of player mails).changes ++ about player changes, (Tidings.of player mails).hasEnd⟩)
    (hdiscloses : Matchmaker.Discloses before after changes)
    (hsearching : after.isSearching player ↔
      before.isSearching player ∧ about player changes = []) :
    (of player states before mails amid).Turn
      ((of player states before mails amid).become player states' after mails') := by
  rw [become_eq fun hsearches => (hsearching.mp hsearches).1, hstate, hmails]
  exact .told _ _ (about player changes) (hdiscloses.silent player) (hdiscloses.latest player)
    hsearching

/-- A step that withdraws the player. -/
theorem turn_withdrawn {amid : Tidings} {hasEnd : Bool}
    (hmails : Tidings.of player mails' =
      ⟨(Tidings.of player mails).changes ++ about player changes, hasEnd⟩)
    (hdiscloses : Matchmaker.Discloses before after changes) (hout : player ∉ after.roll)
    (hstate : states' player = none ∨
      states' player = states player ∧ (Tidings.of player mails).hasEnd) :
    (of player states before mails amid).Turn
      ((of player states before mails amid).become player states' after mails') := by
  have hsearching : after.isSearching player = false := Matchmaker.isSearching_eq_false hout
  have hplace : after.inLine? player = none := Matchmaker.inLine?_eq_none hout
  have hsilent : about player changes = [] → before.inLine? player = none := by
    intro hnone
    rw [← hdiscloses.silent player hnone, hplace]
  have hlatest : ∀ change ∈ (about player changes).getLast?, change.place? = none := by
    intro change hchange
    rw [hdiscloses.latest player change hchange, hplace]
  have hold : after.isSearching player → (of player states before mails amid).isSearching := by
    intro hsearches
    exact absurd hsearches (Bool.eq_false_iff.mp hsearching)
  rw [become_eq hold, hmails, hsearching, hplace]
  exact .withdrawn (states' player) (about player changes) hasEnd hsilent hlatest hstate

/-- A step in which the player, who had no place, starts to search. -/
theorem turn_entered {amid : Tidings} (hout : player ∉ before.roll)
    (hconducts : Matchmaker.Conducts [player] before after []) :
    (of player states before mails amid).Turn
      ((of player states before mails amid).become player
        (Function.update states player (some .matchmaking)) after mails) := by
  have hplace : before.inLine? player = none := Matchmaker.inLine?_eq_none hout
  have hplace' := hconducts.discloses.silent player rfl
  have hsearching : after.isSearching player = true := by
    rw [hconducts.isSearching_iff]
    exact ⟨Or.inr List.mem_cons_self, rfl⟩
  have hbefore : before.isSearching player = false := Matchmaker.isSearching_eq_false hout
  have hstarts : (after.isSearching player &&
      !(of player states before mails amid).isSearching) = true := by
    change (after.isSearching player && !before.isSearching player) = true
    rw [hsearching, hbefore]
    rfl
  rw [become, if_pos hstarts, of, of, Function.update_self, hsearching, hplace']
  exact .entered hplace

/-- A step in which the player leaves the search. -/
theorem turn_stopped {amid : Tidings} (hconsistent : before.IsConsistent)
    (hsearching : before.isSearching player) :
    (of player states before mails amid).Turn
      ((of player states before mails amid).become player
        (Function.update states player (some .idle)) (before.removeSearcher player) mails) := by
  have hout := Matchmaker.not_mem_roll_removeSearcher hconsistent hsearching
  have hstopped : (before.removeSearcher player).isSearching player = false :=
    Matchmaker.isSearching_eq_false hout
  rw [become_eq fun _ => hsearching, Function.update_self, hstopped]
  exact .stopped hsearching

/-- A step in which a change of a queue is heard of. -/
theorem turn_heard {amid : Tidings} {change : AdmissionEvent} {registry : Registry}
    (hconducts : Matchmaker.Conducts [] before { before with registry } []) :
    (of change.event.player states before (.admission change :: mails) amid).Turn
      ((of change.event.player states before (.admission change :: mails) amid).become
        change.event.player
        (Function.update states change.event.player
          ((states change.event.player).map fun _ => Daemon.stateAfter change))
        { before with registry } mails) := by
  have hplace := hconducts.discloses.silent change.event.player rfl
  rw [become_eq id, Function.update_self, hplace, of, Tidings.of_cons_admission_self rfl]
  exact .heard rfl

end Situation

namespace Daemon

variable {before after : Matchmaker} {states states' : PlayerId → Option PlayerState} {mail : Mail}
  {changes : List AdmissionEvent}

theorem conducts_hearing (horderly : before.IsOrderly) {change : AdmissionEvent}
    {registry : Registry}
    (hregistry : registry = before.registry ∨
      registry = before.registry.trackJoin change.event.player change.server) :
    Matchmaker.Conducts [] before { before with registry } [] :=
  Matchmaker.conducts_of_queues_eq horderly
    (queues_hearing horderly.isConsistent.isKeyed hregistry)

/-- Whoever enters was in no place before, and the registration of the named servers moves nobody.
-/
theorem conducts_entry (horderly : before.IsOrderly) (hout : player ∉ before.roll)
    (criteria : Criteria) (servers : List PreferredServer) (now : Nat) :
    Matchmaker.Conducts [player] before
      ((before.addSearcher (.enter player criteria servers now)).registerAll servers now) [] := by
  have hadded :=
    Matchmaker.conducts_addSearcher horderly (.enter player criteria servers now) hout
  exact hadded.trans (Matchmaker.conducts_getOrCreateAll hadded.discloses.isOrderly _ now)
    (List.forall_mem_nil _)

/-- The changes of queues that handling sets under way are those that the matchmaker made. -/
theorem Handling.discloses (horderly : before.IsOrderly)
    (hhandling : Handling before states now mail after states' changes) :
    Matchmaker.Discloses before after changes := by
  cases hhandling with
  | nothing | greeting => exact Matchmaker.discloses_nil horderly fun _ => rfl
  | entry packet sender criteria servers _ hout =>
      exact (conducts_entry horderly hout criteria servers now).discloses
  | preferences packet sender player criteria servers =>
      exact (Matchmaker.conducts_updatePreferences horderly player criteria servers now).discloses
  | report packet sender hreport =>
      exact (Matchmaker.conducts_acknowledge horderly hreport).discloses
  | stop => exact Matchmaker.discloses_removeSearcher horderly _
  | departure packet sender hdequeue =>
      exact (Matchmaker.conducts_dequeue? horderly hdequeue).discloses
  | goodbye packet sender player thoughtAt reason =>
      exact (Matchmaker.discloses_withdraw horderly player thoughtAt reason now).1
  | ending session thoughtAt reason =>
      exact (Matchmaker.discloses_withdraw horderly session.id thoughtAt reason now).1
  | hearing event hregistry => exact (conducts_hearing horderly hregistry).discloses

/-- Handling a message is a turn for each player. -/
theorem Handling.turn (horderly : before.IsOrderly)
    (hhandling : Handling before states now mail after states' changes) (player : PlayerId)
    (others : List Mail) (amid : Tidings) :
    (Situation.of player states before (mail :: others) amid).Turn
      ((Situation.of player states before (mail :: others) amid).become player states' after
        (others ++ changes.map .admission)) := by
  have hdiscloses := hhandling.discloses horderly
  have hconsistent := horderly.isConsistent
  have hmails := Tidings.of_append_admissions player others changes
  cases hhandling with
  | nothing packet sender =>
      exact Situation.turn_told rfl hmails hdiscloses (and_iff_left rfl).symm
  | @greeting packet sender greeted hnew =>
      by_cases hplayer : player = greeted
      · subst hplayer
        rw [Situation.become_eq id, Function.update_self, List.map_nil, List.append_nil]
        exact .greeted hnew
      · exact Situation.turn_told (Function.update_of_ne hplayer _ _) hmails hdiscloses
          (and_iff_left rfl).symm
  | @entry packet sender entered criteria servers hsession hout =>
      have hconducts := conducts_entry horderly hout criteria servers now
      by_cases hplayer : player = entered
      · subst hplayer
        rw [List.map_nil, List.append_nil]
        exact Situation.turn_entered hout hconducts
      · have hsearching := hconducts.isSearching_iff player
        rw [List.mem_singleton, or_iff_left hplayer] at hsearching
        exact Situation.turn_told (Function.update_of_ne hplayer _ _) hmails hdiscloses hsearching
  | preferences packet sender other criteria servers =>
      have hconducts :=
        Matchmaker.conducts_updatePreferences horderly other criteria servers now
      exact Situation.turn_told rfl hmails hdiscloses (hconducts.isSearching_iff_of_nil player)
  | report packet sender hreport =>
      have hconducts := Matchmaker.conducts_acknowledge horderly hreport
      exact Situation.turn_told rfl hmails hdiscloses (hconducts.isSearching_iff_of_nil player)
  | @stop packet sender stopped hsession hsearching =>
      by_cases hplayer : player = stopped
      · subst hplayer
        rw [List.map_nil, List.append_nil]
        exact Situation.turn_stopped hconsistent hsearching
      · have hother : (before.removeSearcher stopped).isSearching player ↔
            before.isSearching player ∧ about player [] = [] := by
          rw [Matchmaker.isSearching_removeSearcher_other hplayer]
          exact (and_iff_left rfl).symm
        exact Situation.turn_told (Function.update_of_ne hplayer _ _) hmails hdiscloses hother
  | departure packet sender hdequeue =>
      have hconducts := Matchmaker.conducts_dequeue? horderly hdequeue
      exact Situation.turn_told rfl hmails hdiscloses (hconducts.isSearching_iff_of_nil player)
  | goodbye packet sender leaving thoughtAt reason =>
      by_cases hplayer : player = leaving
      · subst hplayer
        apply Situation.turn_withdrawn hmails hdiscloses
        · exact Matchmaker.not_mem_roll_withdraw hconsistent player thoughtAt reason now
        · exact Or.inl (Function.update_self _ _ _)
      · have hsearching := (Matchmaker.discloses_withdraw horderly leaving thoughtAt reason
          now).2 player hplayer
        exact Situation.turn_told (Function.update_of_ne hplayer _ _) hmails hdiscloses hsearching
  | ending session thoughtAt reason =>
      by_cases hplayer : player = session.id
      · subst hplayer
        have hended :
            (Tidings.of session.id (.sessionTimeout session :: others)).hasEnd = true := by
          change (session.id == session.id || _) = true
          rw [beq_self_eq_true, Bool.true_or]
        have hout := Matchmaker.not_mem_roll_withdraw hconsistent session.id thoughtAt reason now
        exact Situation.turn_withdrawn hmails hdiscloses hout (Or.inr ⟨rfl, hended⟩)
      · have hsearching := (Matchmaker.discloses_withdraw horderly session.id thoughtAt reason
          now).2 player hplayer
        rw [← Tidings.of_cons_end_other (Ne.symm hplayer) others] at hmails
        exact Situation.turn_told rfl hmails hdiscloses hsearching
  | hearing event hregistry =>
      by_cases hplayer : event.event.player = player
      · subst hplayer
        rw [List.map_nil, List.append_nil]
        exact Situation.turn_heard (conducts_hearing horderly hregistry)
      · rw [← Tidings.of_cons_admission_other hplayer others] at hmails
        exact Situation.turn_told (Function.update_of_ne (Ne.symm hplayer) _ _) hmails hdiscloses
          (and_iff_left rfl).symm

end Daemon

end Muster
