import Muster.Match.Evaluation
import Muster.Proofs.Match.Groups

/-!
# Rounds of a pass

What a round may do, apart from how it compares qualities: some server with slots has a candidate,
its players leave the pool, and the slots are reserved.  Every pass is a sequence of such rounds
that ends where no server has a candidate any more.  What holds of all such sequences therefore
holds of a pass however the qualities of servers and candidates compare.
-/

namespace Muster.Evaluation

variable {now : Nat} {pool left : List Searcher} {servers views : List ServerView}
variable {view : ServerView} {candidate : Candidate} {matched : List Candidate}

/-! ## Candidates -/

theorem mem_eligible {player : Searcher} :
    player ∈ eligible pool view ↔
      player ∈ pool ∧ player.prefers view.address ∧ player.isEligible view := by
  simp [eligible, interested, Group.ordered, and_assoc]

theorem eligible_subperm (pool : List Searcher) (view : ServerView) :
    (eligible pool view).Subperm pool := by
  have hinterested := (Group.ordered_perm (pool.filter fun player => player.prefers view.address))
  exact List.filter_sublist.subperm.trans
    (hinterested.subperm.trans List.filter_sublist.subperm)

theorem pairwise_eligible (pool : List Searcher) (view : ServerView) :
    (eligible pool view).Pairwise fun left right => left.minPlayers ≤ right.minPlayers :=
  (Group.pairwise_ordered _).filter _

/-- The players of a candidate come from the pool, may join its server, and fit it together. -/
theorem exists_group_of_candidate? (hcandidate : candidate? pool now view = some candidate) :
    candidate.server = view.address ∧
      ∃ group : List Searcher, candidate.players = group.map (·.id) ∧ group ≠ [] ∧
        group.Subperm pool ∧
        (∀ player ∈ group, player.prefers view.address ∧ player.isEligible view) ∧
        Group.Fits group view view.availableSlots := by
  simp only [candidate?, Option.map_eq_some_iff] at hcandidate
  obtain ⟨group, hselect, rfl⟩ := hcandidate
  obtain ⟨hnonempty, hsublist, hfits⟩ := Group.fits_of_select? hselect
  refine ⟨rfl, group, rfl, hnonempty, hsublist.subperm.trans (eligible_subperm _ _), ?_, hfits⟩
  intro player hplayer
  exact (mem_eligible.mp (hsublist.subset hplayer)).2

/-- Where a server has no candidate, no players who may join it fit it together. -/
theorem not_fits_of_candidate?_eq_none (hcandidate : candidate? pool now view = none)
    {group : List Searcher} (hnonempty : group ≠ []) (hnodup : group.Nodup)
    (hmember : ∀ player ∈ group,
      player ∈ pool ∧ player.prefers view.address ∧ player.isEligible view) :
    ¬ Group.Fits group view view.availableSlots := by
  simp only [candidate?, Option.map_eq_none_iff] at hcandidate
  apply Group.not_fits_of_select?_eq_none (pairwise_eligible pool view) hcandidate hnonempty
  apply hnodup.subperm
  intro player hplayer
  exact mem_eligible.mpr (hmember player hplayer)

theorem candidate?_nil (now : Nat) (view : ServerView) : candidate? [] now view = none := rfl

theorem length_without_lt (hcandidate : candidate? pool now view = some candidate) :
    (without pool candidate).length < pool.length := by
  obtain ⟨-, group, hplayers, hnonempty, hpart, -, -⟩ := exists_group_of_candidate? hcandidate
  obtain ⟨player, hplayer⟩ := List.exists_mem_of_ne_nil group hnonempty
  apply List.length_filter_lt_length_iff_exists.mpr
  refine ⟨player, hpart.subset hplayer, ?_⟩
  simp only [hplayers, List.contains_eq_mem, List.mem_map]
  simpa using ⟨player, hplayer, rfl⟩

/-! ## The best candidate -/

theorem better_eq_some {best : Option Candidate} {next : Candidate}
    (hbetter : better best next = some candidate) : best = some candidate ∨ candidate = next := by
  cases best with
  | none => exact .inr (Option.some.inj hbetter).symm
  | some previous =>
      simp only [better] at hbetter
      split_ifs at hbetter
      · exact .inr (Option.some.inj hbetter).symm
      · exact .inl hbetter

/-- The best candidate is one of them. -/
theorem foldl_better_eq_some {candidates : List Candidate} {best : Option Candidate}
    (hfold : candidates.foldl better best = some candidate) :
    best = some candidate ∨ candidate ∈ candidates := by
  induction candidates generalizing best with
  | nil => exact .inl hfold
  | cons next rest ih =>
      rcases ih hfold with hbest | hrest
      · rcases better_eq_some hbest with hprevious | rfl
        · exact .inl hprevious
        · exact .inr List.mem_cons_self
      · exact .inr (List.mem_cons_of_mem next hrest)

theorem foldl_better_isSome {candidates : List Candidate} {best : Option Candidate}
    (hbest : best.isSome) : (candidates.foldl better best).isSome := by
  induction candidates generalizing best with
  | nil => exact hbest
  | cons next rest ih =>
      apply ih
      cases best with
      | none => rfl
      | some previous =>
          simp only [better]
          split_ifs <;> rfl

/-- The best candidate of a round is one of those that servers with slots have. -/
theorem best?_eq_some (hbest : best? pool now servers = some candidate) :
    ∃ view ∈ withSlots servers, candidate? pool now view = some candidate := by
  rcases foldl_better_eq_some hbest with hnone | hmember
  · exact absurd hnone (by simp)
  · exact List.mem_filterMap.mp hmember

/-- No server with slots has a candidate. -/
def IsExhausted (now : Nat) (pool : List Searcher) (servers : List ServerView) : Prop :=
  ∀ view ∈ withSlots servers, candidate? pool now view = none

/-- A round without a best candidate is one in which no server has any, whatever their
qualities. -/
theorem best?_eq_none_iff : best? pool now servers = none ↔ IsExhausted now pool servers := by
  rw [IsExhausted, ← List.filterMap_eq_nil_iff]
  constructor
  · intro hbest
    cases hcandidates : (withSlots servers).filterMap (candidate? pool now) with
    | nil => rfl
    | cons first rest =>
        have hsome : (rest.foldl better (some first)).isSome := foldl_better_isSome rfl
        rw [best?, hcandidates, List.foldl_cons, better] at hbest
        simp [hbest] at hsome
  · intro hcandidates
    rw [best?, hcandidates]
    rfl

theorem isExhausted_of_perm {others : List ServerView} (hperm : others.Perm servers)
    (hexhausted : IsExhausted now pool others) : IsExhausted now pool servers := by
  intro view hview
  apply hexhausted view
  rw [withSlots, List.mem_filter] at hview ⊢
  exact ⟨hperm.mem_iff.mpr hview.1, hview.2⟩

theorem isExhausted_nil (now : Nat) (servers : List ServerView) : IsExhausted now [] servers :=
  fun view _ => candidate?_nil now view

theorem ranked_perm (servers : List ServerView) : (ranked servers).Perm servers :=
  Order.arrange_perm _ servers

/-- Servers of one quality stand as they are. -/
theorem ranked_of_forall {quality : Float}
    (hservers : ∀ view ∈ servers, view.quality = quality) : ranked servers = servers := by
  apply Order.arrange_of_pairwise
  apply List.pairwise_of_forall_mem_list
  intro first hfirst second hsecond
  rw [hservers first hfirst, hservers second hsecond]
  exact decide_eq_true (Nat.le_refl _)

/-- A server that is seen twice is no better than one that is seen once. -/
theorem best?_twice (pool : List Searcher) (now : Nat) (view : ServerView) :
    best? pool now [view, view] = best? pool now [view] := by
  by_cases hslots : view.availableSlots != 0
  · cases hcandidate : candidate? pool now view <;>
      simp [best?, withSlots, hslots, hcandidate, better]
  · simp [best?, withSlots, hslots]

/-! ## Sequences of rounds -/

/-- Rounds that commit the given groups one after the other and leave the given players and
servers.  Each of them commits any candidate of any server with slots, and may rearrange the
servers. -/
inductive Rounds (now : Nat) :
    List Searcher → List ServerView → List Candidate → List Searcher → List ServerView → Prop where
  | done {pool : List Searcher} {servers : List ServerView} :
      Rounds now pool servers [] pool servers
  | commit {pool left : List Searcher} {servers arranged views : List ServerView}
      {view : ServerView} {candidate : Candidate} {matched : List Candidate}
      (harranged : arranged.Perm servers) (hview : view ∈ withSlots arranged)
      (hcandidate : candidate? pool now view = some candidate)
      (hrest : Rounds now (without pool candidate)
        (reserve candidate.server candidate.players.length arranged) matched left views) :
      Rounds now pool servers (candidate :: matched) left views

/-- A pass commits these groups, in rounds that go on as long as some server has a candidate. -/
def IsPass (now : Nat) (players : List Searcher) (servers : List ServerView)
    (matched : List Candidate) : Prop :=
  ∃ pool left views, pool.Perm players ∧ Rounds now pool servers matched left views ∧
    IsExhausted now left views

/-- As many rounds as there are players suffice. -/
theorem exists_rounds (limit : Nat) (pool : List Searcher) (servers : List ServerView)
    (hlimit : pool.length ≤ limit) :
    ∃ left views, Rounds now pool servers (rounds now limit pool servers).matched left views ∧
      best? left now (ranked views) = none ∧
      (rounds now limit pool servers).hints = roundHints left now (ranked views) := by
  induction limit generalizing pool servers with
  | zero =>
      obtain rfl := List.eq_nil_of_length_eq_zero (Nat.le_zero.mp hlimit)
      exact ⟨[], servers, .done, best?_eq_none_iff.mpr (isExhausted_nil now _), rfl⟩
  | succ limit ih =>
      simp only [rounds]
      cases hbest : best? pool now (ranked servers) with
      | none => exact ⟨pool, servers, .done, hbest, rfl⟩
      | some best =>
          obtain ⟨view, hview, hcandidate⟩ := best?_eq_some hbest
          have hlength := length_without_lt hcandidate
          obtain ⟨left, views, hrounds, hlast, hhints⟩ := ih (without pool best)
            (reserve best.server best.players.length (ranked servers)) (by omega)
          exact ⟨left, views, .commit (ranked_perm servers) hview hcandidate hrounds, hlast, hhints⟩

theorem arrange_waitedLonger_perm (players : List Searcher) :
    (Order.arrange waitedLonger players).Perm players :=
  Order.arrange_perm _ players

theorem exists_rounds_evaluate (players : List Searcher) (servers : List ServerView) (now : Nat) :
    ∃ left views,
      Rounds now (Order.arrange waitedLonger players) servers
        (evaluate players servers now).matched left views ∧
      best? left now (ranked views) = none ∧
      (evaluate players servers now).hints = roundHints left now (ranked views) :=
  exists_rounds players.length _ servers (by rw [Order.length_arrange])

theorem isPass_evaluate (players : List Searcher) (servers : List ServerView) (now : Nat) :
    IsPass now players servers (evaluate players servers now).matched := by
  obtain ⟨left, views, hrounds, hlast, -⟩ := exists_rounds_evaluate players servers now
  exact ⟨_, left, views, arrange_waitedLonger_perm players, hrounds,
    isExhausted_of_perm (ranked_perm views) (best?_eq_none_iff.mp hlast)⟩

end Muster.Evaluation
