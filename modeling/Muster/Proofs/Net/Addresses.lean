import Muster.Proofs.Net.Numbers

/-!
# The text of addresses

An address is read back from its text, whatever follows that belongs to no address.  Of the short
form the text is moreover the only one that is read so.  Of the long form, the groups before and
behind the double colon are found again, and what is missing between them are the zeros for which it
stands.
-/

namespace Muster.Ip

open Text

variable {text rest before after : List Char} {a b c d : Nat} {groups : List Nat}

theorem char?_eq_some_iff {expected : Char} :
    char? expected text = some rest ↔ text = expected :: rest := by
  cases text with
  | nil => simp [char?]
  | cons char others =>
      rw [char?, Option.ite_none_right_eq_some, Option.some.injEq, List.cons.injEq]

/-! ## The short form -/

theorem toList_dotted (a b c d : Nat) : (dotted a b c d).toList =
    Nat.toDigits 10 a ++ '.' :: (Nat.toDigits 10 b ++ '.' :: (Nat.toDigits 10 c ++ '.' ::
      Nat.toDigits 10 d)) := by
  have hdot : ".".toList = ['.'] := rfl
  have hnumber : ∀ number : Nat, (toString number).toList = Nat.toDigits 10 number :=
    fun number => Nat.toList_repr
  simp only [dotted, String.toList_append, hdot, hnumber, List.append_assoc, List.cons_append,
    List.nil_append]

theorem dotted?_dotted (ha : a ≤ 255) (hb : b ≤ 255) (hc : c ≤ 255) (hd : d ≤ 255)
    (hrest : ∀ char ∈ rest.head?, ¬ isDigit 10 char) :
    dotted? ((dotted a b c d).toList ++ rest) = some ((a, b, c, d), rest) := by
  have hdot : ∀ {value : Nat} (more : List Char), value ≤ 255 →
      byte? (Nat.toDigits 10 value ++ '.' :: more) = some (value, '.' :: more) :=
    fun more hvalue => byte?_toDigits hvalue (not_isDigit_head '.' rfl more)
  have hpoint : ∀ more, char? '.' ('.' :: more) = some more := fun more =>
    char?_eq_some_iff.mpr rfl
  rw [toList_dotted]
  simp only [List.append_assoc, List.cons_append, dotted?, hdot _ ha, hdot _ hb, hdot _ hc,
    byte?_toDigits hd hrest, hpoint, Option.bind_eq_bind, Option.bind_some, Option.pure_def]

theorem text_of_dotted? (hread : dotted? text = some ((a, b, c, d), rest)) :
    text = (dotted a b c d).toList ++ rest ∧ a ≤ 255 ∧ b ≤ 255 ∧ c ≤ 255 ∧ d ≤ 255 := by
  simp only [dotted?, Option.bind_eq_bind, Option.bind_eq_some_iff, Option.pure_def, Prod.exists,
    Option.some.injEq, Prod.mk.injEq, char?_eq_some_iff] at hread
  obtain ⟨a', fromA, ha, fromB', rfl, b', fromB, hb, fromC', rfl, c', fromC, hc, fromD', rfl, d',
    fromD, hd, ⟨rfl, rfl, rfl, rfl⟩, rfl⟩ := hread
  obtain ⟨rfl, haByte⟩ := text_of_byte? ha
  obtain ⟨rfl, hbByte⟩ := text_of_byte? hb
  obtain ⟨rfl, hcByte⟩ := text_of_byte? hc
  obtain ⟨rfl, hdByte⟩ := text_of_byte? hd
  refine ⟨?_, haByte, hbByte, hcByte, hdByte⟩
  simp only [toList_dotted, List.append_assoc, List.cons_append]

theorem dotted?_eq_none (hhead : ∀ char ∈ text.head?, ¬ isDigit 10 char) : dotted? text = none := by
  rw [dotted?, byte?_eq_none hhead]
  rfl

/-- An address of the short form does not begin with digits that no dot follows. -/
theorem dotted?_append_eq_none (hhex : ∀ char ∈ before, isDigit 16 char)
    (hrest : ∀ char ∈ rest.head?, ¬ isDigit 16 char) (hdot : rest.head? ≠ some '.') :
    dotted? (before ++ rest) = none := by
  rw [Option.eq_none_iff_forall_ne_some]
  intro read hread
  rw [dotted?, Option.bind_eq_bind, Option.bind_eq_some_iff] at hread
  obtain ⟨⟨value, more⟩, hbyte, hmore⟩ := hread
  obtain ⟨point, hpoint, -⟩ := Option.bind_eq_some_iff.mp hmore
  obtain rfl := char?_eq_some_iff.mp hpoint
  obtain ⟨digits, -, hdigits, htext, -⟩ := exists_digits_of_number? (byte?_eq_some_iff.mp hbyte).1
  -- The digits before the dot are all that can be read as digits, so the dot would come next.
  have hnotHex : ∀ char ∈ ('.' :: point).head?, ¬ isDigit 16 char := not_isDigit_head '.' rfl point
  obtain ⟨-, rfl⟩ := span_inj htext hhex hrest
    (fun char hchar => isDigit_mono (by decide) (hdigits char hchar)) hnotHex
  exact hdot rfl

/-! ## Groups -/

def leadingColon (isFirst : Bool) : List Char :=
  if isFirst then [] else [':']

def groupsText (isFirst : Bool) : List Nat → List Char
  | [] => []
  | group :: rest => leadingColon isFirst ++ Nat.toDigits 16 group ++ groupsText false rest

theorem toList_colonSeparated (groups : List Nat) :
    (colonSeparated groups).toList = groupsText true groups := by
  have hcolon : ":".toList = [':'] := rfl
  have hdigits : ∀ group, (Text.Quoted.hexDigits group).toList = Nat.toDigits 16 group :=
    fun group => String.toList_ofList
  rw [colonSeparated, String.toList_intercalate, List.map_map, hcolon]
  cases groups with
  | nil => rfl
  | cons group rest =>
      induction rest generalizing group with
      | nil => simp [groupsText, leadingColon, hdigits]
      | cons next others ih =>
          have hrest := ih next
          rw [List.map_cons] at hrest ⊢
          rw [List.map_cons, List.intercalate_cons_cons, hrest]
          simp [groupsText, leadingColon, hdigits]

theorem afterColon?_leadingColon (isFirst : Bool) (text : List Char) :
    afterColon? isFirst (leadingColon isFirst ++ text) = some text := by
  cases isFirst with
  | true => rfl
  | false =>
      change char? ':' (':' :: text) = some text
      exact char?_eq_some_iff.mpr rfl

/-- A text with which no group goes on and no further one begins. -/
structure EndsGroups (text : List Char) : Prop where
  hex : ∀ char ∈ text.head?, ¬ isDigit 16 char
  dot : text.head? ≠ some '.'
  colon : ∀ more, text = ':' :: more → ∀ char ∈ more.head?, ¬ isDigit 16 char

theorem endsGroups_of_ne {first : Char} (hhex : isDigit 16 first = false) (hdot : first ≠ '.')
    (hcolon : first ≠ ':') (rest : List Char) : EndsGroups (first :: rest) where
  hex := not_isDigit_head first hhex rest
  dot := fun hsome => hdot (Option.some.inj hsome)
  colon := fun _ hmore => absurd (List.cons.inj hmore).1 hcolon

theorem endsGroups_colons (rest : List Char) : EndsGroups (':' :: ':' :: rest) where
  hex := not_isDigit_head ':' rfl _
  dot := fun hsome => absurd (Option.some.inj hsome) (by decide)
  colon := by
    intro more hmore
    rw [← (List.cons.inj hmore).2]
    exact not_isDigit_head ':' rfl rest

theorem readGroups_of_endsGroups (isFirst : Bool) (room : Nat) (hrest : EndsGroups rest) :
    readGroups isFirst room rest = ([], false, rest) := by
  cases room with
  | zero => rfl
  | succ room =>
      have hafter : ∀ more, afterColon? isFirst rest = some more →
          ∀ char ∈ more.head?, ¬ isDigit 16 char := by
        intro more hmore
        cases isFirst with
        | true => obtain rfl := Option.some.inj hmore; exact hrest.hex
        | false => exact hrest.colon more (char?_eq_some_iff.mp hmore)
      have hdotted : (afterColon? isFirst rest).bind dotted? = none := by
        rw [Option.bind_eq_none_iff]
        intro more hmore
        refine dotted?_eq_none fun char hchar hdigit => ?_
        exact hafter more hmore char hchar (isDigit_mono (by decide) hdigit)
      have hnumber : (afterColon? isFirst rest).bind (number? 16 (some 4) 0xFFFF) = none := by
        rw [Option.bind_eq_none_iff]
        exact fun more hmore => number?_eq_none (hafter more hmore)
      rw [readGroups, hdotted, hnumber, ite_self]

/-- One group is read, and then those behind it. -/
theorem readGroups_group (isFirst : Bool) (room group : Nat) (hgroup : group < 2 ^ 16)
    (hrest : ∀ char ∈ rest.head?, ¬ isDigit 16 char) (hdot : rest.head? ≠ some '.') :
    readGroups isFirst (room + 1) (leadingColon isFirst ++ Nat.toDigits 16 group ++ rest) =
      (group :: (readGroups false room rest).1, (readGroups false room rest).2) := by
  have hdigits : ∀ char ∈ Nat.toDigits 16 group, isDigit 16 char :=
    isDigit_of_mem_toDigits (by decide) (by decide) group
  have hnumber : number? 16 (some 4) 0xFFFF (Nat.toDigits 16 group ++ rest) =
      some (group, rest) := by
    refine number?_toDigits (by decide) (by decide) (Nat.le_of_lt_succ hgroup) ?_ hrest
    intro most hmost
    obtain rfl := Option.some.inj hmost
    exact ⟨hgroup, by decide⟩
  rw [List.append_assoc, readGroups, afterColon?_leadingColon, Option.bind_some, Option.bind_some,
    dotted?_append_eq_none hdigits hrest hdot, ite_self, hnumber]

/-- Groups of digits are read back, up to where the text goes on differently. -/
theorem readGroups_groupsText (isFirst : Bool) (room : Nat)
    (hgroups : ∀ group ∈ groups, group < 2 ^ 16) (hroom : groups.length ≤ room)
    (hrest : EndsGroups rest) :
    readGroups isFirst room (groupsText isFirst groups ++ rest) = (groups, false, rest) := by
  induction groups generalizing isFirst room with
  | nil => exact readGroups_of_endsGroups isFirst room hrest
  | cons group others ih =>
      rw [List.forall_mem_cons] at hgroups
      rw [List.length_cons] at hroom
      obtain ⟨room, rfl⟩ := Nat.exists_eq_add_one_of_ne_zero (Nat.ne_zero_of_lt hroom)
      have htail : (∀ char ∈ (groupsText false others ++ rest).head?, ¬ isDigit 16 char) ∧
          (groupsText false others ++ rest).head? ≠ some '.' := by
        cases others with
        | nil => exact ⟨hrest.hex, hrest.dot⟩
        | cons next more =>
            refine ⟨not_isDigit_head ':' rfl _, ?_⟩
            change some ':' ≠ some '.'
            decide
      rw [groupsText, List.append_assoc,
        readGroups_group isFirst room group hgroups.1 htail.1 htail.2,
        ih false room hgroups.2 (Nat.le_of_succ_le_succ hroom)]

/-! ## The long form -/

/-- The longest run of zeros is where it is said to be. -/
theorem exists_split_longestZeros (index : Nat) (groups : List Nat) :
    ∃ before after, groups = before ++ List.replicate (longestZeros index groups).2 0 ++ after ∧
      (longestZeros index groups).1 = index + before.length := by
  induction groups generalizing index with
  | nil => exact ⟨[], [], rfl, rfl⟩
  | cons group rest ih =>
      rw [longestZeros]
      split
      case isTrue hhere =>
        refine ⟨[], (group :: rest).dropWhile (· == 0), ?_, rfl⟩
        have hzeros : (group :: rest).takeWhile (· == 0) =
            List.replicate (leadingZeros (group :: rest)) 0 := by
          rw [List.eq_replicate_iff]
          refine ⟨rfl, fun other hother => ?_⟩
          have hequal := List.mem_takeWhile_imp hother
          exact beq_iff_eq.mp hequal
        rw [List.nil_append, ← hzeros, List.takeWhile_append_dropWhile]
      case isFalse hlater =>
        obtain ⟨before, after, hrest, hstart⟩ := ih (index + 1)
        refine ⟨group :: before, after, ?_, ?_⟩
        · rw [List.cons_append, List.cons_append, ← hrest]
        · rw [hstart, List.length_cons]
          omega

/-- The colon form is that of all groups, or of those around a run of zeros. -/
theorem toList_compressed (groups : List Nat) :
    (compressed groups).toList = groupsText true groups ∨
      ∃ before zeros after, groups = before ++ List.replicate zeros 0 ++ after ∧ 1 < zeros ∧
        (compressed groups).toList =
          groupsText true before ++ ':' :: ':' :: groupsText true after := by
  obtain ⟨before, after, hgroups, hstart⟩ := exists_split_longestZeros 0 groups
  rcases hlongest : longestZeros 0 groups with ⟨start, zeros⟩
  rw [hlongest] at hgroups hstart
  rw [Nat.zero_add] at hstart
  have htext : compressed groups = if zeros ≤ 1 then colonSeparated groups
      else colonSeparated (groups.take start) ++ "::" ++
        colonSeparated (groups.drop (start + zeros)) := by
    rw [compressed, hlongest]
  by_cases hshort : zeros ≤ 1
  · left
    rw [htext, if_pos hshort, toList_colonSeparated]
  · right
    have hcolons : "::".toList = [':', ':'] := rfl
    have hbefore : groups.take start = before := by
      rw [hgroups, List.append_assoc]
      exact List.take_left' hstart.symm
    have hafter : groups.drop (start + zeros) = after := by
      rw [hgroups]
      apply List.drop_left'
      rw [List.length_append, List.length_replicate, ← hstart]
    refine ⟨before, zeros, after, hgroups, Nat.lt_of_not_le hshort, ?_⟩
    rw [htext, if_neg hshort, hbefore, hafter, String.toList_append, String.toList_append,
      toList_colonSeparated, toList_colonSeparated, hcolons, List.append_assoc]
    rfl

/-- An address with its zeros left out is read back whole. -/
theorem readV6?_compressed {ip : Ip} (hgroups : ∀ group ∈ groups, group < 2 ^ 16)
    (hip : ofGroups? groups = some ip) (hlength : groups.length = 8) (hrest : EndsGroups rest) :
    readV6? ((compressed groups).toList ++ rest) = some (ip, rest) := by
  rcases toList_compressed groups with htext | ⟨before, zeros, after, rfl, hzeros, htext⟩
  · have hread := readGroups_groupsText true 8 hgroups (Nat.le_of_eq hlength) hrest
    simp only [readV6?, htext, hread, hlength, if_true, hip, Option.map_some]
  · have hcolons := endsGroups_colons (groupsText true after ++ rest)
    rw [List.length_append, List.length_append, List.length_replicate] at hlength
    rw [List.forall_mem_append, List.forall_mem_append] at hgroups
    have hbefore := readGroups_groupsText true 8 hgroups.1.1 (by omega) hcolons
    have hafter := readGroups_groupsText true (7 - before.length) hgroups.2 (by omega) hrest
    have hcolon : ∀ more, char? ':' (':' :: more) = some more := fun more =>
      char?_eq_some_iff.mpr rfl
    have hnumber : 8 - before.length - after.length = zeros := by omega
    rw [htext, List.append_assoc, List.cons_append, List.cons_append]
    simp only [readV6?, hbefore, hcolon, hafter, hnumber, hip, Option.bind_eq_bind,
      Option.bind_some, Option.map_some, Bool.false_eq_true, if_false]
    rw [if_neg (by omega)]

/-- A short address may be written in place of the last two groups. -/
theorem readGroups_dotted (isFirst : Bool) (room : Nat) (ha : a ≤ 255) (hb : b ≤ 255) (hc : c ≤ 255)
    (hd : d ≤ 255) (hrest : ∀ char ∈ rest.head?, ¬ isDigit 10 char) :
    readGroups isFirst (room + 2) (leadingColon isFirst ++ (dotted a b c d).toList ++ rest) =
      ([a * 256 + b, c * 256 + d], true, rest) := by
  rw [List.append_assoc, readGroups, afterColon?_leadingColon, Option.bind_some,
    dotted?_dotted ha hb hc hd hrest]
  rfl

/-- The bytes of an embedded short address make up its last two groups. -/
theorem readV6?_embedded (ha : a ≤ 255) (hb : b ≤ 255) (hc : c ≤ 255) (hd : d ≤ 255)
    (hrest : ∀ char ∈ rest.head?, ¬ isDigit 10 char) :
    readV6? (("::ffff:" ++ dotted a b c d).toList ++ rest) =
      (ofGroups? [0, 0, 0, 0, 0, 0xFFFF, a * 256 + b, c * 256 + d]).map (·, rest) := by
  have hlead : ("::ffff:" ++ dotted a b c d).toList ++ rest =
      ':' :: ':' :: (leadingColon true ++ Nat.toDigits 16 0xFFFF ++
        (leadingColon false ++ (dotted a b c d).toList ++ rest)) := by
    rw [String.toList_append, List.append_assoc, List.append_assoc]
    rfl
  have hcolon : ∀ more, char? ':' (':' :: more) = some more := fun more =>
    char?_eq_some_iff.mpr rfl
  have hnotHex : ∀ char ∈ (leadingColon false ++ (dotted a b c d).toList ++ rest).head?,
      ¬ isDigit 16 char := not_isDigit_head ':' rfl _
  have hnotDot : (leadingColon false ++ (dotted a b c d).toList ++ rest).head? ≠ some '.' := by
    change some ':' ≠ some '.'
    decide
  have hgroups := readGroups_group true 6 0xFFFF (by decide) hnotHex hnotDot
  rw [readGroups_dotted false 4 ha hb hc hd hrest] at hgroups
  rw [hlead, readV6?, readGroups_of_endsGroups true 8 (endsGroups_colons _)]
  simp only [hcolon, Option.bind_eq_bind, Option.bind_some, List.length_nil, Nat.sub_zero, hgroups]
  rfl

theorem ofGroups?_groups {ip : Ip} (hip : ip.isV6) : ofGroups? ip.groups = some ip := by
  cases ip with
  | v4 => cases hip
  | v6 => simp only [groups, ofGroups?, Nat.toUInt16_eq, UInt16.ofNat_toNat]

theorem groups_lt {ip : Ip} (hip : ip.isV6) : ∀ group ∈ ip.groups, group < 2 ^ 16 := by
  cases ip with
  | v4 => cases hip
  | v6 => simp only [groups, List.forall_mem_cons, List.not_mem_nil, false_imp_iff, implies_true,
      UInt16.toNat_lt, and_self]

theorem length_groups {ip : Ip} (hip : ip.isV6) : ip.groups.length = 8 := by
  cases ip with
  | v4 => cases hip
  | v6 => rfl

/-- An address of the long form is read back. -/
theorem readV6?_text {ip : Ip} (hip : ip.isV6) (hrest : EndsGroups rest) :
    readV6? (ip.text.toList ++ rest) = some (ip, rest) := by
  have hcompressed := readV6?_compressed (groups_lt hip) (ofGroups?_groups hip) (length_groups hip)
    hrest
  cases ip with
  | v4 => cases hip
  | v6 g₀ g₁ g₂ g₃ g₄ g₅ g₆ g₇ =>
      rw [text]
      split
      case isFalse => exact hcompressed
      case isTrue hembeds =>
        obtain ⟨rfl, rfl, rfl, rfl, rfl, rfl⟩ := hembeds
        have hsix := g₆.toNat_lt
        have hseven := g₇.toNat_lt
        rw [readV6?_embedded (by omega) (by omega) (by omega) (by omega)
          (fun char hchar hdigit => hrest.hex char hchar (isDigit_mono (by decide) hdigit)),
          Nat.div_add_mod', Nat.div_add_mod']
        simp only [ofGroups?, Nat.toUInt16_eq, UInt16.ofNat_toNat, Option.map_some]
        rfl

/-- An address of the short form is read back. -/
theorem readV4?_text {ip : Ip} (hip : ip.isV6 = false)
    (hrest : ∀ char ∈ rest.head?, ¬ isDigit 10 char) :
    readV4? (ip.text.toList ++ rest) = some (ip, rest) := by
  cases ip with
  | v6 => cases hip
  | v4 a b c d =>
      have hread := dotted?_dotted (Nat.le_of_lt_succ a.toNat_lt) (Nat.le_of_lt_succ b.toNat_lt)
        (Nat.le_of_lt_succ c.toNat_lt) (Nat.le_of_lt_succ d.toNat_lt) hrest
      rw [readV4?, text, hread]
      simp only [Option.map_some, Nat.toUInt8_eq, UInt8.ofNat_toNat]

/-- Only the text of an address of the short form is read as one. -/
theorem text_of_readV4? {ip : Ip} (hread : readV4? text = some (ip, rest)) :
    text = ip.text.toList ++ rest ∧ ip.isV6 = false := by
  obtain ⟨⟨⟨a, b, c, d⟩, others⟩, hdotted, hpair⟩ := Option.map_eq_some_iff.mp hread
  obtain ⟨rfl, rfl⟩ := Prod.mk.inj hpair
  obtain ⟨rfl, ha, hb, hc, hd⟩ := text_of_dotted? hdotted
  have hbyte : ∀ value ≤ 255, value.toUInt8.toNat = value := fun value hvalue =>
    UInt8.toNat_ofNat_of_lt' (Nat.lt_succ_of_le hvalue)
  refine ⟨?_, rfl⟩
  rw [Ip.text, hbyte a ha, hbyte b hb, hbyte c hc, hbyte d hd]

end Muster.Ip
