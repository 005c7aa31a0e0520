import Muster.Proofs.Match.Precedence

/-!
# What a pass depends on

Players come to a pass in no particular order, and servers in the order of their answers.  Neither
matters.  The players are put in the order of their arrival, in which no two of them are equal.
The servers are put in the order of their qualities before every round, and of two servers of one
quality the first stays the first; so their order can matter for such servers alone.
-/

namespace Muster.Evaluation

variable {now : Nat} {pool players others : List Searcher} {servers arranged : List ServerView}

/-! ## Players -/

/-- Players can stand in the order of their arrival in one way only. -/
theorem IsInLine.eq_of_perm {line : List Searcher} (hpool : IsInLine pool) (hline : IsInLine line)
    (hperm : pool.Perm line) : pool = line := by
  apply List.Perm.eq_of_pairwise _ hpool hline hperm
  intro left right _ _ hbefore hafter
  exact absurd hafter (Searcher.arrival_lt_asymm hbefore)

/-- The order of arrival is the same however the players are listed, since their numbers break
ties. -/
theorem arrange_waitedLonger_eq_of_perm (hplayers : (players.map (·.id)).Nodup)
    (hperm : others.Perm players) :
    Order.arrange waitedLonger others = Order.arrange waitedLonger players := by
  have hothers : (others.map (·.id)).Nodup := (hperm.map Searcher.id).nodup_iff.mpr hplayers
  apply (isInLine_arrange hothers).eq_of_perm (isInLine_arrange hplayers)
  calc (Order.arrange waitedLonger others).Perm others := arrange_waitedLonger_perm others
    _ |>.Perm players := hperm
    _ |>.Perm (Order.arrange waitedLonger players) := (arrange_waitedLonger_perm players).symm

/-! ## Servers -/

/-- Servers with qualities of their own can be ranked in one way only. -/
theorem ranked_eq_of_perm (hranks : (servers.map fun view => Quality.rank view.quality).Nodup)
    (hperm : arranged.Perm servers) : ranked arranged = ranked servers := by
  apply Order.arrange_eq_of_perm _ _ hperm
  · intro left hleft right hright hbefore hafter
    rw [decide_eq_true_eq] at hbefore hafter
    exact List.inj_on_of_nodup_map hranks hleft hright (Nat.le_antisymm hafter hbefore)
  · simp only [decide_eq_true_eq]
    exact fun _ _ _ hleft hright => Nat.le_trans hright hleft
  · simp only [decide_eq_true_eq]
    exact fun _ _ => Nat.le_total _ _

/-- All rounds see the servers as the first one ranks them. -/
theorem rounds_congr (hranked : ranked arranged = ranked servers) (limit : Nat) :
    rounds now limit pool arranged = rounds now limit pool servers := by
  cases limit with
  | zero => rw [rounds, rounds, hranked]
  | succ limit => rw [rounds, rounds, hranked]

/-! ## Passes -/

/-- A pass does not depend on the order of the players, nor on that of servers whose qualities all
differ. -/
theorem evaluate_eq_of_perm (players : List Searcher) (servers : List ServerView) (now : Nat)
    (hplayers : (players.map (·.id)).Nodup) :
    (∀ others, others.Perm players → evaluate others servers now = evaluate players servers now) ∧
    ((servers.map fun view => Quality.rank view.quality).Nodup →
      ∀ others arranged, others.Perm players → arranged.Perm servers →
        evaluate others arranged now = evaluate players servers now) := by
  have hsame : ∀ others arranged, others.Perm players → ranked arranged = ranked servers →
      evaluate others arranged now = evaluate players servers now := by
    intro others arranged hothers hranked
    rw [evaluate, evaluate, arrange_waitedLonger_eq_of_perm hplayers hothers, hothers.length_eq]
    exact rounds_congr hranked _
  constructor
  · exact fun others hothers => hsame others servers hothers rfl
  · exact fun hranks others arranged hothers harranged =>
      hsame others arranged hothers (ranked_eq_of_perm hranks harranged)

/-- Servers of three qualities: one without players, one with a low score, one with an unknown
score. -/
def threeServers : List ServerView :=
  [⟨.loopback 28960, "empty", 0, 1, 0, none⟩, ⟨.loopback 28961, "quiet", 2, 8, 0, some 600⟩,
    ⟨.loopback 28962, "unheard", 2, 8, 0, none⟩]

/-- Two who would go to one of two servers each, and one who wants more company than there is. -/
def travellers : List Searcher :=
  [⟨1, { minPlayers := 2 }, [⟨.loopback 28961, 40⟩, ⟨.loopback 28962, 50⟩], 10, 1, []⟩,
    ⟨2, { minPlayers := 1 }, [⟨.loopback 28960, 50⟩, ⟨.loopback 28962, 10⟩], 10, 1, []⟩,
    ⟨3, { minPlayers := 9 }, [⟨.loopback 28961, 60⟩], 0, 0, []⟩]

/-- The groups of this search come out alike, whichever way its players and servers are listed. -/
theorem evaluate_eq_of_perm_travellers :
    (travellers.map (·.id)).Nodup ∧
    (threeServers.map fun view => Quality.rank view.quality).Nodup ∧
    (evaluate travellers threeServers 5000).matched.map (·.players) = [[2], [1]] ∧
    evaluate travellers.reverse threeServers 5000 = evaluate travellers threeServers 5000 ∧
    evaluate travellers.reverse threeServers.reverse 5000 =
      evaluate travellers threeServers 5000 := by
  have hplayers : (travellers.map (·.id)).Nodup := by decide
  have hranks : (threeServers.map fun view => Quality.rank view.quality).Nodup := by
    decide +kernel
  have hsame := evaluate_eq_of_perm travellers threeServers 5000 hplayers
  exact ⟨hplayers, hranks, by decide +kernel, hsame.1 _ travellers.reverse_perm,
    hsame.2 hranks _ _ travellers.reverse_perm threeServers.reverse_perm⟩

end Muster.Evaluation
