import Mathlib.Algebra.Ring.Int.Defs
import Muster.Probe.Snapshot
import Muster.Proofs.Probe.Entries

/-!
# Scoreboards that are written

A report of settings and of one line for each player is cut into these lines again, and the line of
a player is read as this player.  The name may hold quotes, blanks and carriage returns: it runs to
the last quote, behind which nothing is written.  The scores of all players fit a word of 64 bits.
-/

namespace Muster

namespace Scoreboard

variable {line : List Char}

/-! ## Lines -/

theorem dropReturn_eq_self (hlast : line.getLast? ≠ some '\r') : dropReturn line = line := by
  induction line with
  | nil => rfl
  | cons char rest ih =>
      rw [dropReturn]
      · cases rest with
        | nil => rfl
        | cons next others => rw [ih (by rwa [List.getLast?_cons_cons] at hlast)]
      · rintro rfl rfl
        exact hlast rfl

theorem lines_append (hline : '\n' ∉ line) (rest before : List Char) :
    lines (line ++ '\n' :: rest) before = dropReturn (before.reverse ++ line) :: lines rest [] := by
  induction line generalizing before with
  | nil => rw [List.append_nil]; exact if_pos rfl
  | cons char others ih =>
      rw [List.mem_cons, not_or] at hline
      rw [List.cons_append, lines, if_neg (Ne.symm hline.1), ih hline.2, List.reverse_cons,
        List.append_assoc]
      rfl

/-- Lines that are ended by line breaks are told apart at the line breaks. -/
theorem lines_flatMap {written : List (List Char)} (hbreaks : ∀ line ∈ written, '\n' ∉ line)
    (hreturns : ∀ line ∈ written, line.getLast? ≠ some '\r') :
    lines (written.flatMap fun line => line ++ ['\n']) [] = written := by
  induction written with
  | nil => rfl
  | cons line rest ih =>
      rw [List.forall_mem_cons] at hbreaks hreturns
      rw [List.flatMap_cons, List.append_assoc, List.singleton_append, lines_append hbreaks.1,
        List.reverse_nil, List.nil_append, dropReturn_eq_self hreturns.1,
        ih hbreaks.2 hreturns.2]

/-! ## Entries -/

def entryLine (player : PlayerScore) : List Char :=
  player.score.toInt.repr.toList ++ ' ' ::
    (player.ping.toNat.repr.toList ++ ' ' :: '"' :: (player.name.toList ++ ['"']))

def entryForm (player : PlayerScore) : EntryForm where
  before := []
  isNegative := decide (player.score.toInt < 0)
  score := player.score.toInt.natAbs.repr.toList
  scoreGap := [' ']
  ping := player.ping.toNat.repr.toList
  pingGap := [' ']
  name := player.name.toList
  after := []
  isBlank_before := List.forall_mem_nil _
  isDigits_score := Text.Numeral.isDigits_repr _
  isGap_scoreGap := ⟨List.cons_ne_nil _ _, List.forall_mem_singleton.mpr rfl⟩
  isDigits_ping := Text.Numeral.isDigits_repr _
  isGap_pingGap := ⟨List.cons_ne_nil _ _, List.forall_mem_singleton.mpr rfl⟩
  isBlank_after := List.forall_mem_nil _

theorem text_entryForm (player : PlayerScore) : (entryForm player).text = entryLine player := by
  rw [entryLine, Text.Numeral.toList_repr]
  rfl

theorem shows_entryForm (player : PlayerScore) : (entryForm player).Shows player where
  score := (Text.Numeral.signedValue_repr player.score.toInt).symm
  ping := (Text.Numeral.digits?_eq_some_iff.mp (Text.Numeral.digits?_repr player.ping.toNat)).2
  name := rfl

theorem entryOf?_entryLine (player : PlayerScore) : entryOf? (entryLine player) = some player := by
  rw [← text_entryForm]
  exact entryOf?_text (shows_entryForm player)

theorem getLast?_entryLine (player : PlayerScore) :
    (entryLine player).getLast? = some '"' := by
  have hline : entryLine player = (player.score.toInt.repr.toList ++ ' ' ::
      (player.ping.toNat.repr.toList ++ ' ' :: '"' :: player.name.toList)) ++ ['"'] := by
    simp only [entryLine, List.append_assoc, List.cons_append]
  rw [hline, List.getLast?_concat]

theorem newline_not_mem_entryLine {player : PlayerScore} (hname : '\n' ∉ player.name.toList) :
    '\n' ∉ entryLine player := by
  have hword : ∀ word, IsWord word → '\n' ∉ word := fun word hword hmember =>
    hword.not_isBlank '\n' hmember rfl
  have hscore : '\n' ∉ player.score.toInt.repr.toList := by
    rw [Text.Numeral.toList_repr]
    exact hword _ (isWord_signed _ (Text.Numeral.isDigits_repr _))
  have hping := hword _ (isWord_digits (Text.Numeral.isDigits_repr player.ping.toNat))
  simp only [entryLine, List.mem_append, List.mem_cons, hscore, hping, hname, false_or,
    List.not_mem_nil, or_false, not_or]
  decide

/-! ## Totals -/

theorem totalScore_eq_sum (board : Scoreboard) :
    board.totalScore = (board.players.map fun player => player.score.toInt).sum := by
  rw [totalScore]
  induction board.players with
  | nil => rfl
  | cons player rest ih => rw [List.foldr_cons, ih, List.map_cons, List.sum_cons]

/-- A sum of scores is as far from zero as their number allows at most. -/
theorem sum_scores_bounds (players : List PlayerScore) :
    -(players.length * 2 ^ 31 : Int) ≤ (players.map fun player => player.score.toInt).sum ∧
      (players.map fun player => player.score.toInt).sum ≤ players.length * 2 ^ 31 := by
  induction players with
  | nil => decide
  | cons player rest ih =>
      have hlow := player.score.le_toInt
      have hhigh := player.score.toInt_lt
      obtain ⟨hleast, hmost⟩ := ih
      rw [List.map_cons, List.sum_cons, List.length_cons]
      constructor <;> omega

/-- The scores of so many players as a count holds add up to a word of 64 bits. -/
theorem toInt_ofInt_totalScore {board : Scoreboard} (hfits : board.players.length ≤ Count.max) :
    (Int64.ofInt board.totalScore).toInt =
      (board.players.map fun player => player.score.toInt).sum := by
  obtain ⟨hleast, hmost⟩ := sum_scores_bounds board.players
  rw [Count.max] at hfits
  rw [totalScore_eq_sum]
  exact Int64.toInt_ofInt_of_le (by omega) (by omega)

end Scoreboard

end Muster
