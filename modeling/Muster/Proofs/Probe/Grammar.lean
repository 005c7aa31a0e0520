import Muster.Proofs.Probe.Infostrings
import Muster.Proofs.Probe.Scoreboards

/-!
# The grammar of scoreboards

A report is cut into lines at its line breaks in exactly one way.  Of the lines behind the first
one, those that are written as entries are read, in their order, and every other line is skipped.
The total is the sum of the scores, also as a word of 64 bits unless the report is larger than any
message.
-/

namespace Muster.Scoreboard

variable {line last : List Char} {written : List (List Char)}

/-! ## Lines -/

/-- The lines that line breaks end, and the text behind the last line break. -/
@[ext]
structure Lined where
  ended : List (List Char)
  last : List Char
  unbroken : ∀ line ∈ ended ++ [last], '\n' ∉ line

/-- A carriage return at the end of a line belongs to the line break behind it. -/
def withoutReturn (line : List Char) : List Char :=
  if line.getLast? = some '\r' then line.dropLast else line

namespace Lined

def text (lined : Lined) : List Char :=
  (lined.ended.flatMap fun line => line ++ ['\n']) ++ lined.last

def lines (lined : Lined) : List (List Char) :=
  lined.ended.map withoutReturn ++ [lined.last]

end Lined

/-- Lines that have ended are told apart again by their line breaks. -/
theorem splitOnChar_ended (hwritten : ∀ line ∈ written ++ [last], '\n' ∉ line) :
    Text.splitOnChar '\n' ((written.flatMap fun line => line ++ ['\n']) ++ last) =
      written ++ [last] := by
  induction written with
  | nil => exact Text.splitOnChar_of_not_mem (hwritten last List.mem_cons_self)
  | cons line rest ih =>
      rw [List.cons_append, List.forall_mem_cons] at hwritten
      rw [List.flatMap_cons, List.append_assoc, List.append_assoc, List.singleton_append,
        Text.splitOnChar_append hwritten.1, ih hwritten.2, List.cons_append]

/-- The lines are determined by the text. -/
theorem Lined.text_injective : Function.Injective Lined.text := by
  intro lined other htext
  have hsplit := congrArg (Text.splitOnChar '\n') htext
  rw [Lined.text, Lined.text, splitOnChar_ended lined.unbroken, splitOnChar_ended other.unbroken]
    at hsplit
  obtain ⟨hended, hlast⟩ := List.append_inj' hsplit rfl
  exact Lined.ext hended (List.singleton_inj.mp hlast)

/-- Every text consists of lines. -/
theorem Lined.text_surjective : Function.Surjective Lined.text := by
  intro text
  induction text with
  | nil => exact ⟨⟨[], [], by simp⟩, rfl⟩
  | cons char rest ih =>
      obtain ⟨⟨ended, last, hunbroken⟩, hrest⟩ := ih
      by_cases hbreak : char = '\n'
      · refine ⟨⟨[] :: ended, last, ?_⟩, ?_⟩
        · rw [List.cons_append, List.forall_mem_cons]
          exact ⟨List.not_mem_nil, hunbroken⟩
        · rw [hbreak, ← hrest]
          rfl
      · have hkept : ∀ line, '\n' ∉ line → '\n' ∉ char :: line := fun line hline =>
          List.not_mem_cons_of_ne_of_not_mem (Ne.symm hbreak) hline
        cases ended with
        | nil =>
            refine ⟨⟨[], char :: last, ?_⟩, congrArg (char :: ·) hrest⟩
            rw [List.nil_append, List.forall_mem_singleton] at hunbroken ⊢
            exact hkept last hunbroken
        | cons line others =>
            refine ⟨⟨(char :: line) :: others, last, ?_⟩, congrArg (char :: ·) hrest⟩
            rw [List.cons_append, List.forall_mem_cons] at hunbroken ⊢
            exact ⟨hkept line hunbroken.1, hunbroken.2⟩

theorem dropReturn_append_return (line : List Char) : dropReturn (line ++ ['\r']) = line := by
  induction line with
  | nil => rfl
  | cons char rest ih =>
      rw [List.cons_append, dropReturn, ih]
      rintro - hnil
      exact absurd hnil (List.append_ne_nil_of_right_ne_nil _ (List.cons_ne_nil _ _))

theorem dropReturn_eq (line : List Char) : dropReturn line = withoutReturn line := by
  by_cases hreturn : line.getLast? = some '\r'
  · obtain ⟨others, rfl⟩ := List.getLast?_eq_some_iff.mp hreturn
    rw [withoutReturn, if_pos hreturn, List.dropLast_concat, dropReturn_append_return]
  · rw [withoutReturn, if_neg hreturn, dropReturn_eq_self hreturn]

theorem lines_last (hlast : '\n' ∉ last) (before : List Char) :
    lines last before =
      if (before.reverse ++ last).isEmpty then [] else [before.reverse ++ last] := by
  induction last generalizing before with
  | nil => rw [List.append_nil, List.isEmpty_reverse]; rfl
  | cons char rest ih =>
      rw [List.mem_cons, not_or] at hlast
      rw [lines, if_neg (Ne.symm hlast.1), ih hlast.2, List.reverse_cons, List.append_assoc]
      rfl

/-- The reader cuts a text into its lines, but for the empty one behind the last line break. -/
theorem lines_text (lined : Lined) : lines lined.text [] =
    lined.ended.map withoutReturn ++ if lined.last.isEmpty then [] else [lined.last] := by
  obtain ⟨ended, last, hunbroken⟩ := lined
  change lines ((ended.flatMap fun line => line ++ ['\n']) ++ last) [] =
    ended.map withoutReturn ++ if last.isEmpty then [] else [last]
  induction ended with
  | nil => exact lines_last (hunbroken last List.mem_cons_self) []
  | cons line rest ih =>
      rw [List.cons_append, List.forall_mem_cons] at hunbroken
      rw [List.flatMap_cons, List.append_assoc, List.append_assoc, List.singleton_append,
        lines_append hunbroken.1, ih hunbroken.2, List.reverse_nil, List.nil_append,
        dropReturn_eq, List.map_cons, List.cons_append]

/-! ## Reports -/

/-- A line can be written as an entry that shows the player. -/
def IsEntry (line : List Char) (player : PlayerScore) : Prop :=
  ∃ form : EntryForm, form.text = line ∧ form.Shows player

/-- The players are those of the lines that are entries, in order. -/
inductive Yields : List (List Char) → List PlayerScore → Prop where
  | nil : Yields [] []
  | entry {line : List Char} {lines : List (List Char)} {player : PlayerScore}
      {players : List PlayerScore} (hentry : IsEntry line player) (hrest : Yields lines players) :
      Yields (line :: lines) (player :: players)
  | skip {line : List Char} {lines : List (List Char)} {players : List PlayerScore}
      (hentry : ∀ player, ¬ IsEntry line player) (hrest : Yields lines players) :
      Yields (line :: lines) players

/-- Reading the entries of lines is the only way to have their players. -/
theorem yields_iff {players : List PlayerScore} :
    Yields written players ↔ players = written.filterMap entryOf? := by
  constructor
  · intro hyields
    induction hyields with
    | nil => rfl
    | entry hentry _ ih => rw [List.filterMap_cons_some (entryOf?_eq_some_iff.mpr hentry), ih]
    | @skip line _ _ hentry _ ih =>
        have hnone : entryOf? line = none := Option.eq_none_iff_forall_ne_some.mpr
          fun player hplayer => hentry player (entryOf?_eq_some_iff.mp hplayer)
        rw [List.filterMap_cons_none hnone, ih]
  · rintro rfl
    induction written with
    | nil => exact .nil
    | cons line rest ih =>
        cases hline : entryOf? line with
        | none =>
            rw [List.filterMap_cons_none hline]
            refine .skip (fun player hplayer => ?_) ih
            rw [entryOf?_eq_some_iff.mpr hplayer] at hline
            cases hline
        | some player =>
            rw [List.filterMap_cons_some hline]
            exact .entry (entryOf?_eq_some_iff.mp hline) ih

/-- The first line of a report is about the server, and each further one may be about a player. -/
theorem players_ofReport (address : Endpoint) {body : String} {lined : Lined}
    (hbody : lined.text = body.toList) :
    (ofReport address body).players = lined.lines.tail.filterMap entryOf? := by
  have hempty : entryOf? [] = none := rfl
  have hlines : (ofReport address body).players =
      ((lines lined.text []).drop 1).filterMap entryOf? := by rw [hbody]; rfl
  rw [hlines, lines_text, Lined.lines, List.drop_one]
  cases hlast : lined.last with
  | nil => cases lined.ended with
    | nil => rfl
    | cons line rest => simp [List.filterMap_append, hempty]
  | cons char rest => rfl

theorem length_lines_le (text before : List Char) :
    (lines text before).length ≤ text.length + before.length := by
  induction text generalizing before with
  | nil => cases before <;> simp [lines]
  | cons char rest ih =>
      rw [lines]
      split
      · have hrest := ih []
        simp only [List.length_cons, List.length_nil] at hrest ⊢
        omega
      · have hrest := ih (char :: before)
        simp only [List.length_cons] at hrest ⊢
        omega

/-- There are no more players than characters. -/
theorem length_players_le (address : Endpoint) (body : String) :
    (ofReport address body).players.length ≤ body.length := by
  calc (ofReport address body).players.length
      ≤ ((lines body.toList []).drop 1).length := List.length_filterMap_le _ _
    _ ≤ (lines body.toList []).length := by rw [List.length_drop]; omega
    _ ≤ body.length := length_lines_le body.toList []

/-- Every text is cut into lines in exactly one way.  A report yields the players of those lines
behind its first that are written as entries, in order, and no others; and a line is written as an
entry in one way at most.  The total is the sum of the scores, and is held by a word of 64 bits
where the report has fewer characters than a count holds. -/
theorem ofReport_yields (address : Endpoint) (body : String) :
    (∃! lined : Lined, lined.text = body.toList) ∧
    (∀ lined : Lined, lined.text = body.toList → ∀ players,
      Yields lined.lines.tail players ↔ players = (ofReport address body).players) ∧
    (∀ form other : EntryForm, form.text = other.text → form = other) ∧
    (ofReport address body).totalScore =
      ((ofReport address body).players.map fun player => player.score.toInt).sum ∧
    (body.length ≤ Count.max →
      (Int64.ofInt (ofReport address body).totalScore).toInt =
        ((ofReport address body).players.map fun player => player.score.toInt).sum) := by
  refine ⟨?_, ?_, fun form other htext => EntryForm.text_injective htext, totalScore_eq_sum _, ?_⟩
  · exact Function.Bijective.existsUnique
      ⟨Lined.text_injective, Lined.text_surjective⟩ body.toList
  · intro lined hbody players
    rw [yields_iff, players_ofReport address hbody]
  · exact fun hfits => toInt_ofInt_totalScore (Nat.le_trans (length_players_le address body) hfits)

/-- Entries among lines that are none: a sign, a foreign digit and a score that is too large. -/
def mixedReport : String :=
  "\\mapname\\mp_crash\r\n 10\t048 \"a\"b\" \r\n-0 0 \"\"\n+1 2 \"c\"\n\u0663 1 \"d\"\n" ++
    "2147483648 0 \"e\"\n-2147483648 1 \"f\"\r"

/-- Three of these lines are entries, and the others are skipped. -/
theorem ofReport_yields_mixedReport :
    ∃ lined : Lined, lined.text = mixedReport.toList ∧
      Yields lined.lines.tail [⟨10, 48, "a\"b"⟩, ⟨0, 0, ""⟩, ⟨-2147483648, 1, "f"⟩] ∧
      mixedReport.length ≤ Count.max ∧
      (Int64.ofInt (ofReport (.loopback 28960) mixedReport).totalScore).toInt = -2147483638 := by
  have hplayers : (ofReport (.loopback 28960) mixedReport).players =
      [⟨10, 48, "a\"b"⟩, ⟨0, 0, ""⟩, ⟨-2147483648, 1, "f"⟩] := by decide +kernel
  have hfits : mixedReport.length ≤ Count.max := by decide +kernel
  obtain ⟨⟨lined, htext, -⟩, hyields, -, -, htotal⟩ :=
    ofReport_yields (.loopback 28960) mixedReport
  refine ⟨lined, htext, (hyields lined htext _).mpr hplayers.symm, hfits, ?_⟩
  rw [htotal hfits, hplayers]
  decide

end Muster.Scoreboard
