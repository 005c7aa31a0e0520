import Muster.Proofs.Matchmaker.Commitment

/-!
# Reporting

The report counts one attempt for every player of the snapshot who is still in the pool, and tells
each of them once.
-/

namespace Muster.Matchmaker

open Effect (noticesFor)

variable {matchmaker : Matchmaker} {player : PlayerId} {now : Nat} {searcher : Searcher}
  {evaluation : Evaluation}

def counted (evaluation : Evaluation) (searcher : Searcher) : Searcher :=
  { searcher with
    attempts := searcher.attempts + 1
    possibleMatches := evaluation.hintsFor searcher.id }

def updateOf (evaluation : Evaluation) (searcher : Searcher) : ClientEvent :=
  .searchUpdate (searcher.attempts + 1) (evaluation.hintsFor searcher.id)

theorem searcher?_modifySearcher (matchmaker : Matchmaker) (player other : PlayerId)
    {change : Searcher → Searcher} (hchange : ∀ searcher, (change searcher).id = searcher.id) :
    (matchmaker.modifySearcher other change).searcher? player =
      (matchmaker.searcher? player).map fun searcher =>
        if searcher.id = other then change searcher else searcher := by
  have hbeq : ((fun searcher : Searcher => searcher.id == player) ∘ fun searcher : Searcher =>
      if searcher.id = other then change searcher else searcher) =
        fun searcher => searcher.id == player := by
    funext searcher
    simp only [Function.comp_apply]
    split_ifs
    · rw [hchange]
    · rfl
  rw [searcher?, modifySearcher, List.find?_map, hbeq]
  rfl

/-- A report raises the attempts of the player's entry and takes over the new hints. -/
theorem searcher?_reportTo_self (matchmaker : Matchmaker) (evaluation : Evaluation)
    (player : PlayerId) :
    (matchmaker.reportTo evaluation player).1.searcher? player =
      (matchmaker.searcher? player).map (counted evaluation) := by
  rw [reportTo]
  cases hsearcher : matchmaker.searcher? player with
  | none => exact hsearcher
  | some searcher =>
      simp only
      rw [searcher?_modifySearcher]
      · rw [hsearcher, Option.map_some, if_pos (searcher?_eq_some hsearcher).2,
          ← (searcher?_eq_some hsearcher).2]
        rfl
      · intro found
        rfl

theorem searcher?_reportTo_other (matchmaker : Matchmaker) (evaluation : Evaluation)
    {other : PlayerId} (hother : player ≠ other) :
    (matchmaker.reportTo evaluation other).1.searcher? player = matchmaker.searcher? player := by
  rw [reportTo]
  cases matchmaker.searcher? other with
  | none => rfl
  | some searcher =>
      simp only
      rw [searcher?_modifySearcher]
      · cases hsearcher : matchmaker.searcher? player with
        | none => rfl
        | some found =>
            rw [Option.map_some, if_neg ((searcher?_eq_some hsearcher).2 ▸ hother)]
      · intro found
        rfl

/-- Who still searches hears of the report once. -/
theorem noticesFor_reportTo_self (matchmaker : Matchmaker) (evaluation : Evaluation)
    (player : PlayerId) :
    noticesFor player (matchmaker.reportTo evaluation player).2 =
      ((matchmaker.searcher? player).map (updateOf evaluation)).toList := by
  rw [reportTo]
  cases hsearcher : matchmaker.searcher? player with
  | none => rfl
  | some searcher =>
      simp only
      rw [Effect.noticesFor_notify_self rfl, ← (searcher?_eq_some hsearcher).2]
      rfl

theorem noticesFor_reportTo_other (matchmaker : Matchmaker) (evaluation : Evaluation)
    {other : PlayerId} (hother : player ≠ other) :
    noticesFor player (matchmaker.reportTo evaluation other).2 = [] := by
  rw [reportTo]
  cases matchmaker.searcher? other with
  | none => rfl
  | some searcher => exact Effect.noticesFor_notify_other (Ne.symm hother) _

theorem registry_reportTo (matchmaker : Matchmaker) (evaluation : Evaluation)
    (player : PlayerId) :
    (matchmaker.reportTo evaluation player).1.registry = matchmaker.registry := by
  rw [reportTo]
  cases matchmaker.searcher? player <;> rfl

theorem registry_report (evaluation : Evaluation) (players : List PlayerId)
    (matchmaker : Matchmaker) :
    (report evaluation players matchmaker).1.registry = matchmaker.registry := by
  induction players generalizing matchmaker with
  | nil => rfl
  | cons player rest ih => exact (ih _).trans (registry_reportTo matchmaker evaluation player)

/-- Players who are not in the snapshot are not concerned. -/
theorem report_of_not_mem {players : List PlayerId} (hplayer : player ∉ players)
    (evaluation : Evaluation) (matchmaker : Matchmaker) :
    (report evaluation players matchmaker).1.searcher? player = matchmaker.searcher? player ∧
      noticesFor player (report evaluation players matchmaker).2 = [] := by
  induction players generalizing matchmaker with
  | nil => exact ⟨rfl, rfl⟩
  | cons other rest ih =>
      rw [List.mem_cons, not_or] at hplayer
      obtain ⟨hsearcher, hnotices⟩ :=
        ih hplayer.2 (matchmaker.reportTo evaluation other).1
      constructor
      · exact hsearcher.trans (searcher?_reportTo_other matchmaker evaluation hplayer.1)
      · rw [report, Effect.noticesFor_append, hnotices,
          noticesFor_reportTo_other matchmaker evaluation hplayer.1]
        rfl

/-- Players of the snapshot who are in the pool have one attempt more and hear of it once. -/
theorem report_of_mem {players : List PlayerId} (hplayers : players.Nodup)
    (hplayer : player ∈ players) (evaluation : Evaluation) (matchmaker : Matchmaker) :
    (report evaluation players matchmaker).1.searcher? player =
        (matchmaker.searcher? player).map (counted evaluation) ∧
      noticesFor player (report evaluation players matchmaker).2 =
        ((matchmaker.searcher? player).map (updateOf evaluation)).toList := by
  induction players generalizing matchmaker with
  | nil => exact absurd hplayer List.not_mem_nil
  | cons other rest ih =>
      rw [List.nodup_cons] at hplayers
      rw [report, Effect.noticesFor_append]
      by_cases hother : player = other
      · obtain rfl := hother
        obtain ⟨hsearcher, hnotices⟩ := report_of_not_mem hplayers.1 evaluation
          (matchmaker.reportTo evaluation player).1
        constructor
        · exact hsearcher.trans (searcher?_reportTo_self matchmaker evaluation player)
        · rw [hnotices, noticesFor_reportTo_self, List.append_nil]
      · have hrest : player ∈ rest := List.mem_of_ne_of_mem hother hplayer
        obtain ⟨hsearcher, hnotices⟩ :=
          ih hplayers.2 hrest (matchmaker.reportTo evaluation other).1
        rw [searcher?_reportTo_other matchmaker evaluation hother] at hsearcher hnotices
        constructor
        · exact hsearcher
        · rw [hnotices, noticesFor_reportTo_other matchmaker evaluation hother, List.nil_append]

end Muster.Matchmaker
