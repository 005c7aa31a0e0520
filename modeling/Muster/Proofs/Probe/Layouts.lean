import Muster.Proofs.Probe.Replies

/-!
# The two layouts of infostrings

A report in which keys and values alternate and one in which a blank stands between a key and its
value are read alike: no key holds a blank, so a blank in the place of a key tells the second layout
from the first.  For each key the value that was given last is found, whatever the case of its
letters.  Line breaks and NUL characters around the report do not matter.
-/

namespace Muster

namespace Text

/-- Characters that are to be stripped off may as well not be there. -/
theorem trimBoth_surrounded {strip : Char → Bool} {front back : List Char}
    (hfront : ∀ char ∈ front, strip char) (hback : ∀ char ∈ back, strip char)
    (text : List Char) : trimBoth strip (front ++ text ++ back) = trimBoth strip text := by
  have hreversed : ∀ char ∈ back.reverse, strip char := fun char hchar =>
    hback char (List.mem_reverse.mp hchar)
  rw [trimBoth, trimBoth, List.append_assoc, List.dropWhile_append_of_pos hfront,
    List.dropWhile_append]
  split
  case isTrue hnone =>
    have hdropped : back.dropWhile strip = [] := List.dropWhile_eq_nil_iff.mpr hback
    rw [List.isEmpty_iff.mp hnone, hdropped]
  case isFalse hsome =>
    rw [List.reverse_append, List.dropWhile_append_of_pos hreversed]

end Text

namespace Infostring

variable {fields : List (String × String)} {listed : List (List Char × List Char)}
  {field : List Char × List Char}

/-- Line breaks and null characters around the fields do not matter. -/
theorem ofText_surrounded {front back : String}
    (hfront : ∀ char ∈ front.toList, isSurrounding char)
    (hback : ∀ char ∈ back.toList, isSurrounding char) (body : String) :
    ofText (front ++ body ++ back) = ofText body := by
  have hsegments : segments (front ++ body ++ back).toList = segments body.toList := by
    rw [segments, segments, String.toList_append, String.toList_append,
      Text.trimBoth_surrounded hfront hback]
  rw [ofText, ofText, hsegments]

/-! ## Keys and values with a blank between -/

/-- The segment of a field in the layout that puts key and value into one. -/
def spacedSegment (field : List Char × List Char) : List Char :=
  field.1 ++ ' ' :: field.2

/-- A field that is found in either layout. -/
structure IsPlain (field : List Char × List Char) : Prop where
  isField : IsField field
  /-- The value does not begin with a blank. -/
  value : ∀ char ∈ field.2.head?, ¬ Text.isBlank char

theorem isPlain_iff : IsPlain field ↔
    (IsKey field.1 ∧ '\\' ∉ field.2) ∧ ∀ char ∈ field.2.head?, ¬ Text.isBlank char :=
  ⟨fun hplain => ⟨hplain.isField, hplain.value⟩, fun hplain => ⟨hplain.1, hplain.2⟩⟩

instance (field : List Char × List Char) : Decidable (IsPlain field) :=
  @decidable_of_iff' _ _ isPlain_iff
    (@instDecidableAnd _ _ inferInstance (Option.decidableForallMem _))

theorem spacedPair_spacedSegment (hfield : IsPlain field) :
    spacedPair (spacedSegment field) = field := by
  obtain ⟨key, value⟩ := field
  obtain ⟨⟨⟨hne, hkey⟩, -⟩, hvalue⟩ := hfield
  have hblank : ∀ char ∈ key, ¬ Text.isBlank char := fun char hchar => (hkey char hchar).2
  have hstart : Text.trimStart (spacedSegment (key, value)) = key ++ ' ' :: value := by
    cases key with
    | nil => exact absurd rfl hne
    | cons first rest => exact List.dropWhile_cons_of_neg (hblank first List.mem_cons_self)
  have hcut : Text.cutAtBlank? (key ++ ' ' :: value) = some (key, ' ', value) :=
    Text.cutAtBlank?_eq_some_iff.mpr
      ⟨rfl, by decide, fun char hchar => Bool.eq_false_iff.mpr (hblank char hchar)⟩
  have hrest : Text.trimStart value = value := by
    cases value with
    | nil => rfl
    | cons first rest => exact List.dropWhile_cons_of_neg (hvalue first rfl)
  simp only [spacedPair, hstart, hcut, hrest]

/-- The first place of a key holds a blank. -/
theorem not_alternates_spaced (hne : listed ≠ []) : ¬ alternates (listed.map spacedSegment) := by
  obtain ⟨field, rest, rfl⟩ := List.exists_cons_of_ne_nil hne
  have hblank : (spacedSegment field).any Text.isBlank = true := by
    rw [spacedSegment, List.any_append, List.any_cons]
    simp [show Text.isBlank ' ' from rfl]
  cases rest <;> simp [alternates, hblank]

/-- A report with blanks between keys and values has these fields, with keys in lower case. -/
theorem ofText_spaced (hne : listed ≠ []) (hfields : ∀ field ∈ listed, IsPlain field)
    (hlast : ∀ field ∈ listed.getLast?, ∀ char ∈ field.2.getLast?, ¬ isSurrounding char) :
    ofText (String.ofList (joined (listed.map spacedSegment))) =
      ⟨listed.map fun field => (field.1.map Char.toLower, field.2)⟩ := by
  have hmarks : ∀ segment ∈ listed.map spacedSegment, '\\' ∉ segment := by
    intro segment hsegment
    obtain ⟨field, hfield, rfl⟩ := List.mem_map.mp hsegment
    obtain ⟨⟨⟨-, hkey⟩, hvalue⟩, -⟩ := hfields field hfield
    simp only [spacedSegment, List.mem_append, List.mem_cons, not_or]
    exact ⟨fun hmember => (hkey _ hmember).1 rfl, by decide, hvalue⟩
  have hend : ∀ segment ∈ (listed.map spacedSegment).getLast?, ∀ char ∈ segment.getLast?,
      ¬ isSurrounding char := by
    intro segment hsegment char hchar
    rw [List.getLast?_map, Option.mem_def, Option.map_eq_some_iff] at hsegment
    obtain ⟨⟨key, value⟩, hfield, rfl⟩ := hsegment
    rw [spacedSegment, List.getLast?_append_of_ne_nil _ (List.cons_ne_nil _ _)] at hchar
    cases value with
    | nil =>
        obtain rfl : ' ' = char := Option.some.inj hchar
        decide
    | cons first rest =>
        rw [List.getLast?_cons_cons] at hchar
        exact hlast _ hfield char hchar
  have hsegments : segments (joined (listed.map spacedSegment)) = listed.map spacedSegment := by
    obtain ⟨field, rest, rfl⟩ := List.exists_cons_of_ne_nil hne
    exact segments_joined hmarks hend
  have hpairs : (listed.map spacedSegment).map spacedPair = listed := by
    rw [List.map_map]
    refine (List.map_congr_left fun field hfield => ?_).trans (List.map_id listed)
    exact spacedPair_spacedSegment (hfields field hfield)
  have hkept : listed.filter (fun field => !field.1.isEmpty) = listed := by
    rw [List.filter_eq_self]
    intro field hfield
    rw [Bool.not_eq_true', List.isEmpty_eq_false_iff]
    exact (hfields field hfield).isField.1.1
  rw [ofText, String.toList_ofList, hsegments, pairs, if_neg (not_alternates_spaced hne), hpairs,
    hkept]

/-- Keys and values in the layout in which a blank stands between them. -/
def renderSpaced (fields : List (String × String)) : String :=
  String.join (fields.map fun (key, value) => "\\" ++ key ++ " " ++ value)

theorem toList_renderSpaced (fields : List (String × String)) :
    (renderSpaced fields).toList =
      joined ((fields.map fun field => (field.1.toList, field.2.toList)).map spacedSegment) := by
  rw [renderSpaced, String.toList_join]
  induction fields with
  | nil => rfl
  | cons field rest ih =>
      have hmark : "\\".toList = ['\\'] := rfl
      have hblank : " ".toList = [' '] := rfl
      rw [List.map_cons, List.flatMap_cons, ih]
      simp only [String.toList_append, hmark, hblank, joined, spacedSegment, List.map_cons,
        List.flatMap_cons, List.cons_append, List.nil_append, List.append_assoc]

/-! ## Values -/

/-- The value that is given last for a key in lower case, whatever the case in which it is given. -/
def given? (fields : List (String × String)) (key : String) : Option String :=
  (fields.reverse.find? fun field => String.ofList (field.1.toList.map Char.toLower) = key).map
    Prod.snd

/-- A key in lower case finds the value that was given last, whatever its case then. -/
theorem get?_lowered (fields : List (String × String)) (key : String) :
    get? ⟨fields.map fun field => (field.1.toList.map Char.toLower, field.2.toList)⟩ key =
      given? fields key := by
  rw [get?]
  induction fields with
  | nil => rfl
  | cons field rest ih =>
      have hkey : field.1.toList.map Char.toLower = key.toList ↔
          String.ofList (field.1.toList.map Char.toLower) = key := by
        rw [← String.toList_inj, String.toList_ofList]
      rw [given?] at ih ⊢
      rw [List.map_cons, lastValue?, List.reverse_cons, List.find?_append, Option.map_or,
        Option.map_or, ih, List.find?_singleton]
      simp only [hkey, decide_eq_true_eq]
      split
      · rw [Option.map_some, Option.map_some, String.ofList_toList]
      · rfl

/-- Both layouts of a report are read as the map from each key, in lower case, to the value that was
given last for it. -/
theorem layouts_read_alike {front back : String}
    (hfields : ∀ field ∈ fields, IsPlain (field.1.toList, field.2.toList))
    (hlast : ∀ field ∈ fields.getLast?, ∀ char ∈ field.2.toList.getLast?, ¬ isSurrounding char)
    (hfront : ∀ char ∈ front.toList, isSurrounding char)
    (hback : ∀ char ∈ back.toList, isSurrounding char) (key : String) :
    (ofText (front ++ Snapshot.render fields ++ back)).get? key = given? fields key ∧
      (ofText (front ++ renderSpaced fields ++ back)).get? key = given? fields key := by
  have hlistedLast : ∀ field ∈ (fields.map fun field => (field.1.toList, field.2.toList)).getLast?,
      ∀ char ∈ field.2.getLast?, ¬ isSurrounding char := by
    intro listed hlisted char hchar
    rw [List.getLast?_map, Option.mem_def, Option.map_eq_some_iff] at hlisted
    obtain ⟨field, hfield, rfl⟩ := hlisted
    exact hlast field hfield char hchar
  have hlisted : ∀ field ∈ fields.map fun field => (field.1.toList, field.2.toList),
      IsPlain field := List.forall_mem_map.mpr hfields
  rw [ofText_surrounded hfront hback, ofText_surrounded hfront hback]
  by_cases hnil : fields = []
  · subst hnil
    exact ⟨rfl, rfl⟩
  · have hne : (fields.map fun field => (field.1.toList, field.2.toList)) ≠ [] :=
      List.map_eq_nil_iff.not.mpr hnil
    have hspaced := ofText_spaced hne hlisted hlistedLast
    have halternating := ofText_alternating hne (fun field hfield => (hlisted field hfield).isField)
      hlistedLast
    rw [← Snapshot.toList_render, String.ofList_toList, List.map_map] at halternating
    rw [← toList_renderSpaced, String.ofList_toList, List.map_map] at hspaced
    rw [halternating, hspaced]
    exact ⟨get?_lowered fields key, get?_lowered fields key⟩

/-- A key given twice, blanks and a line break inside values, and an empty value at the end. -/
def repeatedFields : List (String × String) :=
  [("Host", "inner\nvalue "), ("\x00x", ""), ("hOST", "last \t one "), ("flag", "")]

/-- The fields come back from either layout, the repeated key with its last value. -/
theorem layouts_read_alike_repeatedFields :
    (∀ field ∈ repeatedFields, IsPlain (field.1.toList, field.2.toList)) ∧
    (∀ field ∈ repeatedFields.getLast?, ∀ char ∈ field.2.toList.getLast?, ¬ isSurrounding char) ∧
    (∀ char ∈ "\r\n".toList, isSurrounding char) ∧ (∀ char ∈ "\x00".toList, isSurrounding char) ∧
    (ofText ("\r\n" ++ Snapshot.render repeatedFields ++ "\x00")).get? "host" =
      some "last \t one " ∧
    (ofText ("\r\n" ++ renderSpaced repeatedFields ++ "\x00")).get? "host" =
      some "last \t one " := by
  have hfields : ∀ field ∈ repeatedFields, IsPlain (field.1.toList, field.2.toList) := by
    decide +kernel
  have hlast : ∀ field ∈ repeatedFields.getLast?, ∀ char ∈ field.2.toList.getLast?,
      ¬ isSurrounding char := by
    intro field hfield char hchar
    obtain rfl := Option.some.inj hfield
    cases hchar
  have hfront : ∀ char ∈ "\r\n".toList, isSurrounding char := List.all_eq_true.mp rfl
  have hback : ∀ char ∈ "\x00".toList, isSurrounding char := List.all_eq_true.mp rfl
  exact ⟨hfields, hlast, hfront, hback, layouts_read_alike hfields hlast hfront hback "host"⟩

end Infostring

end Muster
