import Muster.Proofs.Match.Hints

/-!
# Companions of a blocked player

A round looks for the greatest group of a blocked player and of all companions, that is of those
who may come to the server or would but for the rule for the first attempt.  Among them the player
stands right behind the rivals, who want no more company than the player does.  So there is a hint
exactly where some group with the player fits the server and the rivals leave a slot to the player.
-/

namespace Muster

/-! ## Front parts with a given player -/

namespace Group

variable {front back : List Searcher} {player : Searcher} {view : ServerView}
variable {available : Count}

/-- A player is selected exactly if the front part that is found reaches beyond those before. -/
theorem exists_mem_select?_iff (hfront : player ∉ front) :
    (∃ group, select? (front ++ player :: back) view available = some group ∧ player ∈ group) ↔
      front.length <
        largest ((front ++ player :: back).map (·.minPlayers)) view.realPlayers available := by
  have hlength := (isGreatest_largest ((front ++ player :: back).map (·.minPlayers))
    view.realPlayers available).1.1
  rw [List.length_map] at hlength
  constructor
  · rintro ⟨group, hselect, hplayer⟩
    simp only [select?] at hselect
    split_ifs at hselect
    obtain rfl := Option.some.inj hselect
    by_contra hle
    rw [List.take_append_of_le_length (Nat.le_of_not_lt hle)] at hplayer
    exact hfront (List.mem_of_mem_take hplayer)
  · intro hlt
    refine ⟨_, if_neg (Nat.ne_zero_of_lt hlt), ?_⟩
    exact List.mem_take_iff_getElem.mpr
      ⟨front.length, Nat.lt_min.mpr ⟨hlt, by simp⟩, by simp⟩

/-- Of players in order, one is selected exactly if some part with the player fits, and there are
more slots than players before. -/
theorem exists_mem_select?_iff_fits (hfront : player ∉ front)
    (hsorted : (front ++ player :: back).Pairwise fun left right =>
      left.minPlayers ≤ right.minPlayers) :
    (∃ group, select? (front ++ player :: back) view available = some group ∧ player ∈ group) ↔
      front.length < available.toNat ∧
        ∃ group : List Searcher, group.Subperm (front ++ player :: back) ∧ player ∈ group ∧
          Fits group view available := by
  have hgreatest := isGreatest_largest ((front ++ player :: back).map (·.minPlayers))
    view.realPlayers available
  constructor
  · rintro ⟨group, hselect, hplayer⟩
    have hlt := (exists_mem_select?_iff hfront).mp ⟨group, hselect, hplayer⟩
    obtain ⟨-, hsublist, hfits⟩ := fits_of_select? hselect
    exact ⟨Nat.lt_of_lt_of_le hlt hgreatest.1.2.1, group, hsublist.subperm, hplayer, hfits⟩
  · rintro ⟨hslots, group, hpart, hplayer, hroom, hreached⟩
    rw [exists_mem_select?_iff hfront]
    by_cases hgroup : front.length < group.length
    · refine Nat.lt_of_lt_of_le hgroup ?_
      rw [← List.length_map (f := (·.minPlayers))]
      refine length_le_largest (List.pairwise_map.mpr hsorted) (Parts.map _ hpart) ?_ ?_
      · rwa [List.length_map]
      · rw [List.forall_mem_map, List.length_map]
        exact hreached
    -- The group is no larger than the front.  So the front with the player does as well: nobody
    -- there wants more than the player does.
    · apply Nat.lt_of_succ_le
      apply hgreatest.2
      refine ⟨by simp, hslots, ?_⟩
      have htake : (front ++ player :: back).take (front.length + 1) = front ++ [player] := by
        simp [List.take_append, List.take_of_length_le]
      rw [IsReached, ← List.map_take, htake, List.forall_mem_map]
      intro other hother
      have hle : other.minPlayers.toNat ≤ player.minPlayers.toNat := by
        rcases List.mem_append.mp hother with hbefore | hlast
        · rw [List.pairwise_append] at hsorted
          exact hsorted.2.2 other hbefore player List.mem_cons_self
        · rw [List.mem_singleton.mp hlast]
      have hplayer := hreached player hplayer
      omega

end Group

/-! ## Companions -/

namespace Searcher

variable {player : Searcher} {view : ServerView}

/-- The player named the server, and what keeps the player off it, if anything does, is the rule
for the first attempt alone.  Such players count towards each other's hints.  -/
def IsCompanion (player : Searcher) (view : ServerView) : Prop :=
  player.prefers view.address ∧
    (player.ineligibility view = [] ∨
      player.ineligibility view = [.waitingForPlayers view.realPlayers player.minPlayers])

instance (player : Searcher) (view : ServerView) : Decidable (player.IsCompanion view) :=
  inferInstanceAs (Decidable (_ ∧ _))

/-- The rule about company gives one reason at most. -/
theorem toList_waiting?_cases (player : Searcher) (view : ServerView) :
    (player.waiting? view).toList = [] ∨
      (player.waiting? view).toList = [.waitingForPlayers view.realPlayers player.minPlayers] := by
  simp only [waiting?]
  split_ifs
  · exact Or.inr rfl
  · exact Or.inl rfl

/-- The other limits have reasons of their own. -/
theorem isWaiting_eq_false {reason : Ineligibility} {ping : UInt32}
    (hreason : reason ∈ (player.scoreTooHigh? view).toList ++
      (player.tooManyPlayers? view).toList ++ (player.pingTooHigh? ping).toList) :
    Evaluation.isWaiting reason = false := by
  simp only [scoreTooHigh?, tooManyPlayers?, pingTooHigh?, List.mem_append, Option.mem_toList]
    at hreason
  grind [Evaluation.isWaiting]

theorem all_isWaiting_iff : (player.ineligibility view).all Evaluation.isWaiting ↔
    player.ineligibility view = [] ∨
      player.ineligibility view = [.waitingForPlayers view.realPlayers player.minPlayers] := by
  constructor
  · intro hall
    simp only [ineligibility] at hall ⊢
    split at hall
    · simp [Evaluation.isWaiting] at hall
    · rename_i ping _
      rw [List.append_assoc, List.append_assoc, List.all_append, Bool.and_eq_true] at hall
      rw [List.append_assoc, List.append_assoc]
      have hrest : (player.scoreTooHigh? view).toList ++ ((player.tooManyPlayers? view).toList ++
          (player.pingTooHigh? ping).toList) = [] := by
        rw [List.eq_nil_iff_forall_not_mem]
        intro reason hreason
        have hwaiting := List.all_eq_true.mp hall.2 reason hreason
        rw [isWaiting_eq_false (by rwa [List.append_assoc])] at hwaiting
        exact absurd hwaiting (by decide)
      rw [hrest, List.append_nil]
      exact toList_waiting?_cases player view
  · rintro (hnone | hwaiting)
    · simp [hnone]
    · simp [hwaiting, Evaluation.isWaiting]

end Searcher

namespace Evaluation

variable {now : Nat} {pool : List Searcher} {view : ServerView} {player : Searcher} {hint : Hint}

/-- Those who count are those whom nothing keeps off the server and those who wait. -/
theorem eligible_append_waiting_perm (pool : List Searcher) (view : ServerView) :
    (eligible pool view ++ waiting pool view).Perm
      (pool.filter fun other => other.IsCompanion view) := by
  let isHeldBack (other : Searcher) : Bool := (other.ineligibility view).all isWaiting
  have heligible : eligible pool view =
      ((interested pool view).filter isHeldBack).filter (·.isEligible view) := by
    rw [eligible, List.filter_filter]
    apply List.filter_congr
    intro other _
    cases hreasons : other.ineligibility view <;> simp [Searcher.isEligible, isHeldBack, hreasons]
  have hwaiting : waiting pool view =
      ((interested pool view).filter isHeldBack).filter (!·.isEligible view) := by
    rw [waiting, blocked, List.filter_filter, List.filter_filter]
    simp only [isHeldBack, Bool.and_comm]
  rw [heligible, hwaiting]
  refine (List.filter_append_perm _ _).trans ?_
  refine ((Group.ordered_perm _).filter isHeldBack).trans ?_
  rw [List.filter_filter]
  apply List.Perm.of_eq
  apply List.filter_congr
  intro other _
  rw [Bool.eq_iff_iff, Bool.and_eq_true, decide_eq_true_eq, Searcher.IsCompanion, and_comm,
    Searcher.all_isWaiting_iff]

/-- Companions of a player for a server, other than the player. -/
def companions (pool : List Searcher) (view : ServerView) (player : Searcher) : List Searcher :=
  pool.filter fun other => other.id ≠ player.id ∧ other.IsCompanion view

/-- Companions who want no more company than the player: in a search for groups they go before. -/
def rivals (pool : List Searcher) (view : ServerView) (player : Searcher) : List Searcher :=
  (companions pool view player).filter fun other => other.minPlayers ≤ player.minPlayers

theorem hintPool_perm (pool : List Searcher) (view : ServerView) (player : Searcher) :
    (hintPool pool view player).Perm (player :: companions pool view player) := by
  refine (Group.ordered_perm _).trans ?_
  refine (List.perm_append_singleton _ _).trans (List.Perm.cons _ ?_)
  refine ((eligible_append_waiting_perm pool view).filter _).trans ?_
  rw [List.filter_filter]
  apply List.Perm.of_eq
  apply List.filter_congr
  intro other _
  rw [Bool.decide_and, decide_not]
  rfl

/-- Of those who want as much company as the player, nobody stands behind. -/
theorem pairwise_hintPool (pool : List Searcher) (view : ServerView) (player : Searcher) :
    (hintPool pool view player).Pairwise fun left right =>
      left.minPlayers ≤ right.minPlayers ∧
        (right.minPlayers ≤ left.minPlayers → left.id ≠ player.id) := by
  apply Group.pairwise_ordered_ties
  have hothers : ∀ other ∈ (eligible pool view ++ waiting pool view).filter
      (fun other => other.id != player.id), other.id ≠ player.id := by
    intro other hother
    simpa using (List.mem_filter.mp hother).2
  rw [List.pairwise_append]
  refine ⟨List.pairwise_of_forall_mem_list fun left hleft _ _ => hothers left hleft,
    List.pairwise_singleton _ _, fun left hleft _ _ => hothers left hleft⟩

/-- The player stands right behind the rivals. -/
theorem exists_hintPool_eq (pool : List Searcher) (view : ServerView) (player : Searcher) :
    ∃ front back, hintPool pool view player = front ++ player :: back ∧
      front.length = (rivals pool view player).length ∧
      ∀ other ∈ front ++ back, other.id ≠ player.id := by
  have hperm := hintPool_perm pool view player
  obtain ⟨front, back, hsplit⟩ :=
    List.append_of_mem (hperm.mem_iff.mpr (List.mem_cons_self (l := companions pool view player)))
  have hothers : (front ++ back).Perm (companions pool view player) := by
    rw [hsplit] at hperm
    exact List.perm_cons player |>.mp (List.perm_middle.symm.trans hperm)
  have hordered := pairwise_hintPool pool view player
  rw [hsplit, List.pairwise_append, List.pairwise_cons] at hordered
  obtain ⟨-, ⟨hback, -⟩, hfront⟩ := hordered
  have hrivals : (front ++ back).filter (fun other => other.minPlayers ≤ player.minPlayers) =
      front := by
    rw [List.filter_append, List.filter_eq_self.mpr, List.filter_eq_nil_iff.mpr, List.append_nil]
    · intro other hother
      have hnot := mt (hback other hother).2 (not_not.mpr rfl)
      simpa using hnot
    · intro other hother
      simpa using (hfront other hother player List.mem_cons_self).1
  refine ⟨front, back, hsplit, ?_, fun other hother => ?_⟩
  · rw [rivals, ← (hothers.filter _).length_eq, hrivals]
  · have hother := (List.mem_filter.mp (hothers.mem_iff.mp hother)).2
    rw [decide_eq_true_eq] at hother
    exact hother.1

/-- What a hint says is what was selected. -/
theorem hint?_eq_some_iff : hint? pool now view player = some hint ↔
    ∃ group, Group.select? (hintPool pool view player) view view.availableSlots = some group ∧
      player ∈ group ∧ hint = {
        player := player.id
        possible := {
          server := view.address
          hostname := view.hostname
          quality := ⟨(Quality.ofMatch view.quality view.address group now).toBits⟩
          players := group.map (·.id)
          blockedBy := player.ineligibility view } } := by
  have hmember : ∀ group, Group.select? (hintPool pool view player) view view.availableSlots =
      some group → ((group.any fun other => other.id == player.id) ↔ player ∈ group) := by
    intro group hselect
    obtain ⟨front, back, hsplit, -, hothers⟩ := exists_hintPool_eq pool view player
    obtain ⟨-, hsublist, -⟩ := Group.fits_of_select? hselect
    rw [List.any_eq_true]
    constructor
    · rintro ⟨other, hother, hid⟩
      have hlooked := hsublist.subset hother
      rw [hsplit] at hlooked
      simp only [List.mem_append, List.mem_cons] at hlooked hothers
      grind
    · exact fun hplayer => ⟨player, hplayer, beq_self_eq_true _⟩
  simp only [hint?]
  cases hselect : Group.select? (hintPool pool view player) view view.availableSlots with
  | none => simp
  | some group =>
      simp only [hmember group hselect, Option.some.injEq, exists_eq_left', eq_comm (a := hint)]
      split_ifs with hplayer <;> simp [hplayer]

/-- A blocked player gets a hint exactly if some group of the player and companions fits the
server, and the rivals leave the player a slot.  -/
theorem hint?_isSome_iff (pool : List Searcher) (now : Nat) (view : ServerView)
    (player : Searcher) :
    (hint? pool now view player).isSome ↔
      (rivals pool view player).length < view.availableSlots.toNat ∧
        ∃ group : List Searcher, group.Subperm (player :: companions pool view player) ∧
          player ∈ group ∧ Group.Fits group view view.availableSlots := by
  obtain ⟨front, back, hsplit, hlength, hothers⟩ := exists_hintPool_eq pool view player
  have hfront : player ∉ front := fun hplayer =>
    hothers player (List.mem_append_left back hplayer) rfl
  have hsorted := (pairwise_hintPool pool view player).imp And.left
  rw [hsplit] at hsorted
  calc (hint? pool now view player).isSome
      ↔ ∃ group, Group.select? (hintPool pool view player) view view.availableSlots = some group ∧
          player ∈ group := by simp [Option.isSome_iff_exists, hint?_eq_some_iff]
    _ ↔ front.length < view.availableSlots.toNat ∧
          ∃ group : List Searcher, group.Subperm (hintPool pool view player) ∧ player ∈ group ∧
            Group.Fits group view view.availableSlots := by
        rw [hsplit]
        exact Group.exists_mem_select?_iff_fits hfront hsorted
    _ ↔ _ := by
        rw [hlength]
        simp only [(hintPool_perm pool view player).subperm_left]

/-- The group of a hint is made of the player and of companions, and it fits the server. -/
theorem exists_group_of_hint? (hhint : hint? pool now view player = some hint) :
    ∃ group : List Searcher, hint.possible.players = group.map (·.id) ∧
      group.Subperm (player :: companions pool view player) ∧ player ∈ group ∧
      Group.Fits group view view.availableSlots := by
  obtain ⟨group, hselect, hplayer, rfl⟩ := hint?_eq_some_iff.mp hhint
  obtain ⟨-, hsublist, hfits⟩ := Group.fits_of_select? hselect
  exact ⟨group, rfl, hsublist.subperm.trans (hintPool_perm pool view player).subperm, hplayer,
    hfits⟩

/-- There is room for the player at least. -/
theorem availableSlots_ne_zero (hhint : hint? pool now view player = some hint) :
    view.availableSlots ≠ 0 := by
  obtain ⟨group, -, -, hplayer, hroom, -⟩ := exists_group_of_hint? hhint
  have hlength := List.length_pos_of_mem hplayer
  rintro hnone
  rw [hnone] at hroom
  exact absurd (Nat.le_trans hlength hroom) (by decide)

end Evaluation

end Muster
