import Muster.Probe.Scoreboard
import Muster.Proofs.Text.Numeral
import Muster.Proofs.Text.Spans

/-!
# The grammar of entries

An entry of a scoreboard is written as a score and a ping in digits and a name in quotes, with
blanks between and around them.  A line can be written so in at most one way, since a word ends
where blanks begin and the last quote of the line closes the name.  The reader accepts a line
exactly if it is written so and the numbers fit, and then has read these numbers and this name.
-/

namespace Muster.Scoreboard

open Text

structure IsGap (gap : List Char) : Prop where
  ne_nil : gap ≠ []
  blank : ∀ char ∈ gap, isBlank char

/-- A way to write an entry, part by part. -/
@[ext]
structure EntryForm where
  before : List Char
  isNegative : Bool
  /-- The digits of the score. -/
  score : List Char
  scoreGap : List Char
  /-- The digits of the ping. -/
  ping : List Char
  pingGap : List Char
  name : List Char
  after : List Char
  isBlank_before : ∀ char ∈ before, isBlank char
  isDigits_score : Numeral.IsDigits score
  isGap_scoreGap : IsGap scoreGap
  isDigits_ping : Numeral.IsDigits ping
  isGap_pingGap : IsGap pingGap
  isBlank_after : ∀ char ∈ after, isBlank char

namespace EntryForm

def text (form : EntryForm) : List Char :=
  form.before ++ (Numeral.signed form.isNegative form.score ++ (form.scoreGap ++
    (form.ping ++ (form.pingGap ++ '"' :: (form.name ++ '"' :: form.after)))))

/-- The player has the score, the ping and the name that are written. -/
structure Shows (form : EntryForm) (player : PlayerScore) : Prop where
  score : player.score.toInt = Numeral.signedValue form.isNegative form.score
  ping : player.ping.toNat = Nat.ofDigitChars 10 form.ping 0
  name : player.name.toList = form.name

end EntryForm

/-! ## Words and gaps -/

variable {line text word rest gap name : List Char}

structure IsWord (word : List Char) : Prop where
  ne_nil : word ≠ []
  not_isBlank : ∀ char ∈ word, ¬ isBlank char

theorem isWord_digits (hdigits : Numeral.IsDigits word) : IsWord word where
  ne_nil := hdigits.ne_nil
  not_isBlank := fun char hchar =>
    Bool.eq_false_iff.mp (Numeral.isBlank_of_isDigit (hdigits.isDigit char hchar))

theorem isWord_signed (isNegative : Bool) (hdigits : Numeral.IsDigits word) :
    IsWord (Numeral.signed isNegative word) := by
  cases isNegative with
  | true =>
      refine ⟨List.cons_ne_nil _ _, ?_⟩
      rw [Numeral.signed, if_pos rfl, List.forall_mem_cons]
      exact ⟨by decide, (isWord_digits hdigits).not_isBlank⟩
  | false => exact isWord_digits hdigits

theorem IsWord.kept (hword : IsWord word) : ∀ char ∈ word, (!isBlank char) = true :=
  fun char hchar => Bool.not_eq_true' _ ▸ Bool.eq_false_iff.mpr (hword.not_isBlank char hchar)

theorem not_isBlank_quote (rest : List Char) : ∀ char ∈ ('"' :: rest).head?, ¬ isBlank char := by
  intro char hchar
  obtain rfl := Option.some.inj hchar
  decide

theorem IsWord.head?_append (hword : IsWord word) (rest : List Char) :
    ∀ char ∈ (word ++ rest).head?, ¬ isBlank char := by
  cases word with
  | nil => exact absurd rfl hword.ne_nil
  | cons first others =>
      intro char hchar
      obtain rfl := Option.some.inj hchar
      exact hword.not_isBlank _ List.mem_cons_self

theorem IsGap.head?_append (hgap : IsGap gap) (rest : List Char) :
    ∀ char ∈ (gap ++ rest).head?, ¬ (!isBlank char) := by
  cases gap with
  | nil => exact absurd rfl hgap.ne_nil
  | cons first others =>
      intro char hchar
      obtain rfl := Option.some.inj hchar
      rw [hgap.blank _ List.mem_cons_self]
      decide

theorem cutWord_append (hword : IsWord word) (hrest : ∀ char ∈ rest.head?, ¬ (!isBlank char)) :
    cutWord (word ++ rest) = (word, rest) := by
  rw [cutWord, takeWhile_span hword.kept hrest, dropWhile_span hword.kept hrest]

/-- Blanks are taken away together. -/
theorem afterBlanks?_eq_some_iff : afterBlanks? text = some rest ↔
    ∃ gap, IsGap gap ∧ text = gap ++ rest ∧ ∀ char ∈ rest.head?, ¬ isBlank char := by
  cases text with
  | nil =>
      simp only [afterBlanks?, reduceCtorEq, false_iff]
      rintro ⟨gap, hgap, htext, -⟩
      exact hgap.ne_nil (List.append_eq_nil_iff.mp htext.symm).1
  | cons first others =>
      rw [afterBlanks?, Option.ite_none_right_eq_some]
      constructor
      · rintro ⟨hfirst, hrest⟩
        obtain rfl := Option.some.inj hrest
        refine ⟨first :: others.takeWhile isBlank, ⟨List.cons_ne_nil _ _, ?_⟩, ?_,
          head?_dropWhile isBlank others⟩
        · rw [List.forall_mem_cons]
          exact ⟨hfirst, fun char hchar => List.mem_takeWhile_imp hchar⟩
        · rw [List.cons_append, List.takeWhile_append_dropWhile]
      · rintro ⟨gap, hgap, htext, hrest⟩
        cases gap with
        | nil => exact absurd rfl hgap.ne_nil
        | cons blank blanks =>
            obtain ⟨rfl, rfl⟩ := List.cons.inj htext
            have hblanks := List.forall_mem_cons.mp hgap.blank
            exact ⟨hblanks.1, congrArg some (dropWhile_span hblanks.2 hrest)⟩

/-- The name runs to the last quote, behind which only blanks may stand. -/
theorem nameOf?_eq_some_iff : nameOf? text = some name ↔
    ∃ after, (∀ char ∈ after, isBlank char) ∧ text = name ++ '"' :: after := by
  have hmatch : nameOf? text = some name ↔
      text.reverse.dropWhile isBlank = '"' :: name.reverse := by
    rw [nameOf?]
    split
    case h_1 found hfound =>
      rw [hfound, Option.some.injEq, List.cons.injEq, List.reverse_eq_iff]
      exact ⟨fun hname => ⟨rfl, hname⟩, And.right⟩
    case h_2 hnot =>
      simp only [reduceCtorEq, false_iff]
      exact hnot _
  rw [hmatch]
  constructor
  · intro hdrop
    refine ⟨(text.reverse.takeWhile isBlank).reverse, ?_, ?_⟩
    · intro char hchar
      exact List.mem_takeWhile_imp (List.mem_reverse.mp hchar)
    · have hcut := List.takeWhile_append_dropWhile (p := isBlank) (l := text.reverse)
      rw [hdrop] at hcut
      have htext := congrArg List.reverse hcut
      rw [List.reverse_reverse, List.reverse_append, List.reverse_cons, List.reverse_reverse,
        List.append_assoc] at htext
      exact htext.symm
  · rintro ⟨after, hafter, rfl⟩
    rw [List.reverse_append, List.reverse_cons, List.append_assoc]
    exact dropWhile_span (fun char hchar => hafter char (List.mem_reverse.mp hchar))
      (not_isBlank_quote _)

/-! ## Numbers -/

/-- A score is read from digits, with or without a minus sign, if it is in range. -/
theorem scoreOf?_eq_some_iff {score : Int32} : scoreOf? text = some score ↔
    ∃ isNegative digits, Numeral.IsDigits digits ∧ text = Numeral.signed isNegative digits ∧
      score.toInt = Numeral.signedValue isNegative digits := by
  constructor
  · intro hscore
    fun_cases scoreOf? text
    case case1 digits =>
      obtain ⟨number, hdigits, hword⟩ := Option.bind_eq_some_iff.mp hscore
      have hdigits := (Numeral.digits?_eq_some_iff.mp hdigits).1
      exact ⟨true, digits, hdigits, rfl, (Numeral.int32?_eq_some_iff hdigits true).mp hword⟩
    case case2 =>
      rw [scoreOf?] at hscore
      · obtain ⟨number, hdigits, hword⟩ := Option.bind_eq_some_iff.mp hscore
        have hdigits := (Numeral.digits?_eq_some_iff.mp hdigits).1
        exact ⟨false, text, hdigits, rfl, (Numeral.int32?_eq_some_iff hdigits false).mp hword⟩
      · assumption
  · rintro ⟨isNegative, digits, hdigits, rfl, hscore⟩
    have hread := Numeral.digits?_eq_some_iff.mpr ⟨hdigits, rfl⟩
    have hword := (Numeral.int32?_eq_some_iff hdigits isNegative).mpr hscore
    cases isNegative with
    | true =>
        change (Numeral.digits? digits).bind _ = _
        rw [hread, Option.bind_some]
        exact hword
    | false =>
        change scoreOf? digits = _
        rw [scoreOf?]
        · rw [hread, Option.bind_some]
          exact hword
        · exact fun rest => hdigits.ne_cons rfl rest

theorem pingOf?_eq_some_iff {ping : UInt32} : pingOf? text = some ping ↔
    Numeral.IsDigits text ∧ ping.toNat = Nat.ofDigitChars 10 text 0 := by
  rw [pingOf?, Option.bind_eq_some_iff]
  constructor
  · rintro ⟨number, hdigits, hping⟩
    have hdigits := (Numeral.digits?_eq_some_iff.mp hdigits).1
    exact ⟨hdigits, (Numeral.uint32?_eq_some_iff hdigits).mp hping⟩
  · rintro ⟨hdigits, hping⟩
    exact ⟨_, Numeral.digits?_eq_some_iff.mpr ⟨hdigits, rfl⟩,
      (Numeral.uint32?_eq_some_iff hdigits).mpr hping⟩

/-! ## Entries -/

/-- A quote that only blanks follow is found again. -/
theorem lastQuote_inj {other after others : List Char} (hafter : ∀ char ∈ after, isBlank char)
    (hothers : ∀ char ∈ others, isBlank char)
    (htext : name ++ '"' :: after = other ++ '"' :: others) :
    name = other ∧ after = others := by
  have hname : nameOf? (name ++ '"' :: after) = some name :=
    nameOf?_eq_some_iff.mpr ⟨after, hafter, rfl⟩
  rw [htext, nameOf?_eq_some_iff.mpr ⟨others, hothers, rfl⟩] at hname
  obtain rfl := Option.some.inj hname
  exact ⟨rfl, (List.cons.inj (List.append_cancel_left htext)).2⟩

theorem signed_inj {isNegative isOther : Bool} {digits others : List Char}
    (hdigits : Numeral.IsDigits digits) (hothers : Numeral.IsDigits others)
    (htext : Numeral.signed isNegative digits = Numeral.signed isOther others) :
    isNegative = isOther ∧ digits = others := by
  cases isNegative <;> cases isOther
  case false.false => exact ⟨rfl, htext⟩
  case false.true => exact absurd htext (hdigits.ne_cons rfl others)
  case true.false => exact absurd htext.symm (hothers.ne_cons rfl digits)
  case true.true => exact ⟨rfl, (List.cons.inj htext).2⟩

/-- A line is written in one way at most. -/
theorem EntryForm.text_injective : Function.Injective EntryForm.text := by
  intro form other htext
  -- Words and gaps take turns, so each ends where the next one begins.
  obtain ⟨hbefore, htext⟩ := span_inj htext form.isBlank_before
    ((isWord_signed _ form.isDigits_score).head?_append _) other.isBlank_before
    ((isWord_signed _ other.isDigits_score).head?_append _)
  obtain ⟨hsigned, htext⟩ := span_inj htext (isWord_signed _ form.isDigits_score).kept
    (form.isGap_scoreGap.head?_append _) (isWord_signed _ other.isDigits_score).kept
    (other.isGap_scoreGap.head?_append _)
  obtain ⟨hscoreGap, htext⟩ := span_inj htext form.isGap_scoreGap.blank
    ((isWord_digits form.isDigits_ping).head?_append _) other.isGap_scoreGap.blank
    ((isWord_digits other.isDigits_ping).head?_append _)
  obtain ⟨hping, htext⟩ := span_inj htext (isWord_digits form.isDigits_ping).kept
    (form.isGap_pingGap.head?_append _) (isWord_digits other.isDigits_ping).kept
    (other.isGap_pingGap.head?_append _)
  obtain ⟨hpingGap, htext⟩ := span_inj htext form.isGap_pingGap.blank (not_isBlank_quote _)
    other.isGap_pingGap.blank (not_isBlank_quote _)
  obtain ⟨hname, hafter⟩ := lastQuote_inj form.isBlank_after other.isBlank_after
    (List.cons.inj htext).2
  obtain ⟨hsign, hscore⟩ := signed_inj form.isDigits_score other.isDigits_score hsigned
  exact EntryForm.ext hbefore hsign hscore hscoreGap hping hpingGap hname hafter

/-- Whatever is written as an entry is read so. -/
theorem entryOf?_text {form : EntryForm} {player : PlayerScore} (hshows : form.Shows player) :
    entryOf? form.text = some player := by
  have hscore := isWord_signed form.isNegative form.isDigits_score
  have hping := isWord_digits form.isDigits_ping
  have hfront : trimStart form.text = Numeral.signed form.isNegative form.score ++
      (form.scoreGap ++ (form.ping ++ (form.pingGap ++
        '"' :: (form.name ++ '"' :: form.after)))) :=
    dropWhile_span form.isBlank_before (hscore.head?_append _)
  have hscoreGap := afterBlanks?_eq_some_iff.mpr
    ⟨_, form.isGap_scoreGap, rfl, hping.head?_append (form.pingGap ++
      '"' :: (form.name ++ '"' :: form.after))⟩
  have hpingGap := afterBlanks?_eq_some_iff.mpr
    ⟨_, form.isGap_pingGap, rfl, not_isBlank_quote (form.name ++ '"' :: form.after)⟩
  have hscoreRead := scoreOf?_eq_some_iff.mpr ⟨_, _, form.isDigits_score, rfl, hshows.score⟩
  have hpingRead := pingOf?_eq_some_iff.mpr ⟨form.isDigits_ping, hshows.ping⟩
  have hnameRead : nameOf? (form.name ++ '"' :: form.after) = some form.name :=
    nameOf?_eq_some_iff.mpr ⟨_, form.isBlank_after, rfl⟩
  have hname : String.ofList form.name = player.name := by
    rw [← hshows.name, String.ofList_toList]
  rw [entryOf?, hfront, cutWord_append hscore (form.isGap_scoreGap.head?_append _)]
  simp only [hscoreRead, hscoreGap, cutWord_append hping (form.isGap_pingGap.head?_append _),
    hpingRead, hpingGap, hnameRead, hname, Option.bind_eq_bind, Option.bind_some, Option.pure_def]

theorem cutWord_append_cutWord (text : List Char) : (cutWord text).1 ++ (cutWord text).2 = text :=
  List.takeWhile_append_dropWhile

/-- What is read as an entry is written so. -/
theorem exists_text_of_entryOf? {player : PlayerScore} (hentry : entryOf? line = some player) :
    ∃ form : EntryForm, form.text = line ∧ form.Shows player := by
  simp only [entryOf?, Option.bind_eq_bind, Option.bind_eq_some_iff] at hentry
  obtain ⟨score, hscore, fromPing, hscoreGap, ping, hping, fromName, hpingGap, hname⟩ := hentry
  split at hname
  case h_2 => cases hname
  case h_1 quoted =>
    obtain ⟨name, hquoted, hplayer⟩ := Option.bind_eq_some_iff.mp hname
    obtain rfl := Option.some.inj hplayer
    obtain ⟨isNegative, digits, hdigits, hsigned, hvalue⟩ := scoreOf?_eq_some_iff.mp hscore
    obtain ⟨hpingDigits, hpingValue⟩ := pingOf?_eq_some_iff.mp hping
    obtain ⟨scoreGap, hisScoreGap, hscoreRest, -⟩ := afterBlanks?_eq_some_iff.mp hscoreGap
    obtain ⟨pingGap, hisPingGap, hpingRest, -⟩ := afterBlanks?_eq_some_iff.mp hpingGap
    obtain ⟨after, hafter, hlast⟩ := nameOf?_eq_some_iff.mp hquoted
    let form : EntryForm :=
      { before := line.takeWhile isBlank, isNegative, score := digits, scoreGap,
        ping := (cutWord fromPing).1, pingGap, name, after,
        isBlank_before := fun char hchar => List.mem_takeWhile_imp hchar,
        isDigits_score := hdigits, isGap_scoreGap := hisScoreGap,
        isDigits_ping := hpingDigits, isGap_pingGap := hisPingGap, isBlank_after := hafter }
    refine ⟨form, ?_, hvalue, hpingValue, String.toList_ofList⟩
    have hfromPing : fromPing = (cutWord fromPing).1 ++
        (pingGap ++ '"' :: (name ++ '"' :: after)) := by
      rw [← hlast, ← hpingRest, cutWord_append_cutWord]
    have hstart : trimStart line = Numeral.signed isNegative digits ++ (scoreGap ++ fromPing) := by
      rw [← hsigned, ← hscoreRest, cutWord_append_cutWord]
    calc form.text = line.takeWhile isBlank ++ trimStart line := by
          rw [hstart, hfromPing]
          rfl
      _ = line := List.takeWhile_append_dropWhile

/-- A line is an entry exactly if it is written as one. -/
theorem entryOf?_eq_some_iff {player : PlayerScore} : entryOf? line = some player ↔
    ∃ form : EntryForm, form.text = line ∧ form.Shows player := by
  constructor
  · exact exists_text_of_entryOf?
  · rintro ⟨form, rfl, hshows⟩
    exact entryOf?_text hshows

end Muster.Scoreboard
