import Mathlib.Data.List.Basic
import Muster.Probe.Infostring
import Muster.Proofs.Text.Numeral

/-!
# Infostrings that are written

Segments without backslashes are found again when each of them is written behind a backslash.  Where
keys and values alternate and no key holds a blank, the segments pair up again, so every field is
read as it was written, with its key in lower case.
-/

namespace Muster

namespace Text

variable {mark : Char} {segment : List Char}

theorem splitOnChar_of_not_mem (hsegment : mark ∉ segment) :
    splitOnChar mark segment = [segment] := by
  induction segment with
  | nil => rfl
  | cons char rest ih =>
      rw [List.mem_cons, not_or] at hsegment
      rw [splitOnChar, if_neg (Ne.symm hsegment.1), ih hsegment.2]

theorem splitOnChar_append (hsegment : mark ∉ segment) (rest : List Char) :
    splitOnChar mark (segment ++ mark :: rest) = segment :: splitOnChar mark rest := by
  induction segment with
  | nil => exact if_pos rfl
  | cons char others ih =>
      rw [List.mem_cons, not_or] at hsegment
      rw [List.cons_append, splitOnChar, if_neg (Ne.symm hsegment.1), ih hsegment.2]

/-- Segments with marks between them are told apart at the marks. -/
theorem splitOnChar_joined (segment : List Char) {segments : List (List Char)}
    (hsegments : ∀ other ∈ segment :: segments, mark ∉ other) :
    splitOnChar mark (segment ++ segments.flatMap (mark :: ·)) = segment :: segments := by
  induction segments generalizing segment with
  | nil =>
      rw [List.flatMap_nil, List.append_nil]
      exact splitOnChar_of_not_mem (hsegments segment List.mem_cons_self)
  | cons next rest ih =>
      rw [List.forall_mem_cons] at hsegments
      rw [List.flatMap_cons, List.cons_append, splitOnChar_append hsegments.1, ih next hsegments.2]

end Text

namespace Infostring

def joined (segments : List (List Char)) : List Char :=
  segments.flatMap ('\\' :: ·)

def alternating (fields : List (List Char × List Char)) : List (List Char) :=
  fields.flatMap fun field => [field.1, field.2]

theorem joined_append (left right : List (List Char)) :
    joined (left ++ right) = joined left ++ joined right :=
  List.flatMap_append

/-- No end of a text of segments is stripped off unless the last segment ends so. -/
theorem trimBoth_joined {segments : List (List Char)}
    (hlast : ∀ segment ∈ segments.getLast?, ∀ char ∈ segment.getLast?, ¬ isSurrounding char) :
    Text.trimBoth isSurrounding (joined segments) = joined segments := by
  have hmark : ¬ isSurrounding '\\' := by decide
  apply Text.trimBoth_eq_self
  · intro char hchar
    cases segments with
    | nil => cases hchar
    | cons segment rest =>
        obtain rfl : '\\' = char := Option.some.inj hchar
        exact hmark
  · intro char hchar
    rcases List.eq_nil_or_concat segments with rfl | ⟨others, segment, rfl⟩
    · cases hchar
    · have hend : (joined (others.concat segment)).getLast? = ('\\' :: segment).getLast? := by
        rw [List.concat_eq_append, joined_append]
        change (joined others ++ (('\\' :: segment) ++ [])).getLast? = _
        rw [List.append_nil, List.getLast?_append_of_ne_nil _ (List.cons_ne_nil _ _)]
      rw [hend] at hchar
      cases segment with
      | nil =>
          obtain rfl : '\\' = char := Option.some.inj hchar
          exact hmark
      | cons first rest =>
          rw [List.getLast?_cons_cons] at hchar
          exact hlast _ (by rw [List.concat_eq_append, List.getLast?_concat]; rfl) char hchar

theorem segments_joined {segment : List Char} {others : List (List Char)}
    (hmarks : ∀ other ∈ segment :: others, '\\' ∉ other)
    (hlast : ∀ other ∈ (segment :: others).getLast?, ∀ char ∈ other.getLast?,
      ¬ isSurrounding char) :
    segments (joined (segment :: others)) = segment :: others := by
  rw [segments, trimBoth_joined hlast]
  exact Text.splitOnChar_joined segment hmarks

/-! ## Fields -/

/-- A key that is found where keys and values alternate. -/
def IsKey (key : List Char) : Prop :=
  key ≠ [] ∧ ∀ char ∈ key, char ≠ '\\' ∧ ¬ Text.isBlank char

instance (key : List Char) : Decidable (IsKey key) :=
  @instDecidableAnd _ _ inferInstance (List.decidableBAll _ key)

/-- A field whose value is not cut. -/
def IsField (field : List Char × List Char) : Prop :=
  IsKey field.1 ∧ '\\' ∉ field.2

theorem IsField.unmarked {field : List Char × List Char} (hfield : IsField field)
    {segment : List Char} (hsegment : segment ∈ [field.1, field.2]) : '\\' ∉ segment := by
  rcases List.mem_pair.mp hsegment with rfl | rfl
  · exact fun hmember => (hfield.1.2 _ hmember).1 rfl
  · exact hfield.2

variable {fields : List (List Char × List Char)}

theorem alternates_alternating (hfields : ∀ field ∈ fields, IsField field) :
    alternates (alternating fields) := by
  induction fields with
  | nil => rfl
  | cons field rest ih =>
      rw [List.forall_mem_cons] at hfields
      change (!field.1.any Text.isBlank && alternates (alternating rest)) = true
      rw [ih hfields.2, Bool.and_true, Bool.not_eq_true', List.any_eq_false]
      exact fun char hchar => (hfields.1.1.2 char hchar).2

theorem alternatingPairs_alternating (fields : List (List Char × List Char)) :
    alternatingPairs (alternating fields) = fields := by
  induction fields with
  | nil => rfl
  | cons field rest ih =>
      change field :: alternatingPairs (alternating rest) = _
      rw [ih]

/-- A report of alternating keys and values has these fields, with keys in lower case. -/
theorem ofText_alternating (hne : fields ≠ []) (hfields : ∀ field ∈ fields, IsField field)
    (hlast : ∀ field ∈ fields.getLast?, ∀ char ∈ field.2.getLast?, ¬ isSurrounding char) :
    ofText (String.ofList (joined (alternating fields))) =
      ⟨fields.map fun field => (field.1.map Char.toLower, field.2)⟩ := by
  have hmarks : ∀ segment ∈ alternating fields, '\\' ∉ segment := by
    intro segment hsegment
    obtain ⟨field, hfield, hmember⟩ := List.mem_flatMap.mp hsegment
    exact (hfields field hfield).unmarked hmember
  have hend : ∀ segment ∈ (alternating fields).getLast?, ∀ char ∈ segment.getLast?,
      ¬ isSurrounding char := by
    rcases List.eq_nil_or_concat fields with rfl | ⟨others, field, rfl⟩
    · exact absurd rfl hne
    · rw [List.concat_eq_append, List.getLast?_concat] at hlast
      rw [List.concat_eq_append, alternating, List.flatMap_append, List.flatMap_singleton,
        List.getLast?_append_of_ne_nil _ (List.cons_ne_nil _ _)]
      intro segment hsegment
      obtain rfl : field.2 = segment := Option.some.inj hsegment
      exact hlast field rfl
  have hsegments : segments (joined (alternating fields)) = alternating fields := by
    cases fields with
    | nil => exact absurd rfl hne
    | cons field rest => exact segments_joined hmarks hend
  have hkept : fields.filter (fun field => !field.1.isEmpty) = fields := by
    rw [List.filter_eq_self]
    intro field hfield
    rw [Bool.not_eq_true', List.isEmpty_eq_false_iff]
    exact (hfields field hfield).1.1
  rw [ofText, String.toList_ofList, hsegments, pairs, if_pos (alternates_alternating hfields),
    alternatingPairs_alternating, hkept]

/-! ## Values -/

variable {key value : List Char}

theorem lastValue?_eq_none (hkey : key ∉ fields.map Prod.fst) : lastValue? key fields = none := by
  induction fields with
  | nil => rfl
  | cons field rest ih =>
      rw [List.map_cons, List.mem_cons, not_or] at hkey
      rw [lastValue?, ih hkey.2, if_neg (Ne.symm hkey.1), Option.or_none]

/-- Where no key is given twice, every value is the last one of its key. -/
theorem lastValue?_of_mem (hkeys : (fields.map Prod.fst).Nodup) (hfield : (key, value) ∈ fields) :
    lastValue? key fields = some value := by
  induction fields with
  | nil => exact absurd hfield List.not_mem_nil
  | cons field rest ih =>
      rw [List.map_cons, List.nodup_cons] at hkeys
      rw [lastValue?]
      rcases List.mem_cons.mp hfield with rfl | hrest
      · rw [lastValue?_eq_none hkeys.1, if_pos rfl, Option.none_or]
      · rw [ih hkeys.2 hrest, Option.some_or]

end Infostring

end Muster
