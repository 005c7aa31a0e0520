import Mathlib.Tactic.SplitIfs
import Muster.Text.Utf8

/-!
# Characters and bytes

A character is written in one way only: of the byte strings that `scan` takes for a character, each
is the encoding of the character it is taken for, and every encoding is taken for its character,
whatever follows.  So the strict reader reads exactly the encodings, and the lenient reader gives
an encoding back without loss.
-/

namespace Muster.Text.Utf8

variable {lead second byte : UInt8} {bytes rest : List UInt8} {char : Char}
  {code taken index : Nat}

/-! ## Bytes as numbers -/

theorem isContinuation_iff : isContinuation byte ↔ 0x80 ≤ byte.toNat ∧ byte.toNat ≤ 0xBF := by
  simp [isContinuation, UInt8.le_iff_toNat_le]

theorem isSecond_iff : isSecond lead second ↔
    isContinuation second ∧ (lead.toNat = 0xE0 → 0xA0 ≤ second.toNat) ∧
      (lead.toNat = 0xED → second.toNat ≤ 0x9F) ∧ (lead.toNat = 0xF0 → 0x90 ≤ second.toNat) ∧
      (lead.toNat = 0xF4 → second.toNat ≤ 0x8F) := by
  simp only [isSecond, isContinuation, ← UInt8.toNat_inj]
  split_ifs <;> simp_all [UInt8.le_iff_toNat_le] <;> omega

theorem width_eq (lead : UInt8) : width lead =
    if lead.toNat < 0x80 then 1
    else if 0xC2 ≤ lead.toNat ∧ lead.toNat ≤ 0xDF then 2
    else if 0xE0 ≤ lead.toNat ∧ lead.toNat ≤ 0xEF then 3
    else if 0xF0 ≤ lead.toNat ∧ lead.toNat ≤ 0xF4 then 4 else 0 := by
  simp [width, UInt8.le_iff_toNat_le, UInt8.lt_iff_toNat_lt]

theorem width_eq_one_iff : width lead = 1 ↔ lead.toNat < 0x80 := by
  rw [width_eq]
  split_ifs <;> simp <;> omega

theorem width_eq_two_iff : width lead = 2 ↔ 0xC2 ≤ lead.toNat ∧ lead.toNat ≤ 0xDF := by
  rw [width_eq]
  split_ifs <;> simp <;> omega

theorem width_eq_three_iff : width lead = 3 ↔ 0xE0 ≤ lead.toNat ∧ lead.toNat ≤ 0xEF := by
  rw [width_eq]
  split_ifs <;> simp <;> omega

theorem width_eq_four_iff : width lead = 4 ↔ 0xF0 ≤ lead.toNat ∧ lead.toNat ≤ 0xF4 := by
  rw [width_eq]
  split_ifs <;> simp <;> omega

/-! ## One character -/

/-- The byte strings of one character, each with the number of the character. -/
inductive Spells : List UInt8 → Nat → Prop where
  | one {a : UInt8} (hwidth : width a = 1) : Spells [a] a.toNat
  | two {a b : UInt8} (hwidth : width a = 2) (hb : isSecond a b) :
      Spells [a, b] (a.toNat % 0x20 * 0x40 + payload b)
  | three {a b c : UInt8} (hwidth : width a = 3) (hb : isSecond a b) (hc : isContinuation c) :
      Spells [a, b, c] (a.toNat % 0x10 * 0x1000 + payload b * 0x40 + payload c)
  | four {a b c d : UInt8} (hwidth : width a = 4) (hb : isSecond a b) (hc : isContinuation c)
      (hd : isContinuation d) :
      Spells [a, b, c, d]
        (a.toNat % 0x08 * 0x40000 + payload b * 0x1000 + payload c * 0x40 + payload d)

theorem scan_of_spells (hspells : Spells (lead :: bytes) code) (rest : List UInt8) :
    scan lead (bytes ++ rest) = (some (Char.ofNat code), bytes.length) := by
  cases hspells with
  | one hwidth => simp [scan, hwidth]
  | two hwidth hb => simp [scan, hwidth, hb]
  | three hwidth hb hc => simp [scan, hwidth, hb, hc]
  | four hwidth hb hc hd => simp [scan, hwidth, hb, hc, hd]

theorem spells_of_scan (hscan : scan lead rest = (some char, taken)) :
    ∃ code, Spells (lead :: rest.take taken) code ∧ char = Char.ofNat code := by
  revert hscan
  fun_cases scan lead rest <;> intro hscan <;> cases hscan
  case case1 hwidth => exact ⟨_, .one hwidth, rfl⟩
  case case2 hwidth hb => exact ⟨_, .two hwidth hb, rfl⟩
  case case6 hwidth hb hc =>
    rw [Bool.not_eq_true, Bool.not_eq_false'] at hb hc
    exact ⟨_, .three hwidth hb hc, rfl⟩
  case case11 hwidth hb hc hd =>
    rw [Bool.not_eq_true, Bool.not_eq_false'] at hb hc hd
    exact ⟨_, .four hwidth hb hc hd, rfl⟩

theorem Spells.isValidChar (hspells : Spells bytes code) : code.isValidChar := by
  cases hspells with
  | one hwidth =>
      rw [width_eq_one_iff] at hwidth
      simp only [Nat.isValidChar]
      omega
  | two hwidth hb =>
      rw [width_eq_two_iff] at hwidth
      simp only [payload, Nat.isValidChar]
      omega
  | three hwidth hb hc =>
      simp only [width_eq_three_iff, isSecond_iff, isContinuation_iff] at hwidth hb hc
      simp only [payload, Nat.isValidChar]
      omega
  | four hwidth hb hc hd =>
      simp only [width_eq_four_iff, isSecond_iff, isContinuation_iff] at hwidth hb hc hd
      simp only [payload, Nat.isValidChar]
      omega

theorem toNat_ofNat (hcode : code.isValidChar) : (Char.ofNat code).toNat = code := by
  rw [Char.ofNat, dif_pos hcode]
  rfl

theorem encodeChar_of_spells (hspells : Spells bytes code) :
    encodeChar (Char.ofNat code) = bytes := by
  simp only [encodeChar, toNat_ofNat hspells.isValidChar]
  generalize hcode : code = number
  cases hspells with
  | one hwidth =>
      rw [width_eq_one_iff] at hwidth
      rw [if_pos (by omega), ← hcode]
      simp
  | two hwidth hb =>
      simp only [width_eq_two_iff, isSecond_iff, isContinuation_iff] at hwidth hb
      simp only [payload] at hcode
      rw [if_neg (by omega), if_pos (by omega)]
      simp only [List.cons.injEq, ← UInt8.toNat_inj, Nat.toUInt8, UInt8.toNat_ofNat', and_true]
      omega
  | three hwidth hb hc =>
      simp only [width_eq_three_iff, isSecond_iff, isContinuation_iff] at hwidth hb hc
      simp only [payload] at hcode
      rw [if_neg (by omega), if_neg (by omega), if_pos (by omega)]
      simp only [List.cons.injEq, ← UInt8.toNat_inj, Nat.toUInt8, UInt8.toNat_ofNat', and_true]
      omega
  | four hwidth hb hc hd =>
      simp only [width_eq_four_iff, isSecond_iff, isContinuation_iff] at hwidth hb hc hd
      simp only [payload] at hcode
      rw [if_neg (by omega), if_neg (by omega), if_neg (by omega)]
      simp only [List.cons.injEq, ← UInt8.toNat_inj, Nat.toUInt8, UInt8.toNat_ofNat', and_true]
      omega

theorem Spells.of_eq {number : Nat} (hspells : Spells bytes number) (hnumber : code = number) :
    Spells bytes code :=
  hnumber ▸ hspells

theorem spells_encodeChar (char : Char) : Spells (encodeChar char) char.toNat := by
  have hvalid : char.toNat.isValidChar := char.valid
  simp only [encodeChar]
  generalize char.toNat = code at hvalid
  simp only [Nat.isValidChar] at hvalid
  split_ifs
  · refine Spells.of_eq (.one ?_) ?_
    · rw [width_eq_one_iff, Nat.toUInt8, UInt8.toNat_ofNat']
      omega
    · rw [Nat.toUInt8, UInt8.toNat_ofNat']
      omega
  · refine Spells.of_eq (.two ?_ ?_) ?_ <;>
      simp only [width_eq_two_iff, isSecond_iff, isContinuation_iff, payload, Nat.toUInt8,
        UInt8.toNat_ofNat'] <;> omega
  · refine Spells.of_eq (.three ?_ ?_ ?_) ?_ <;>
      simp only [width_eq_three_iff, isSecond_iff, isContinuation_iff, payload, Nat.toUInt8,
        UInt8.toNat_ofNat'] <;> omega
  · refine Spells.of_eq (.four ?_ ?_ ?_ ?_) ?_ <;>
      simp only [width_eq_four_iff, isSecond_iff, isContinuation_iff, payload, Nat.toUInt8,
        UInt8.toNat_ofNat'] <;> omega

theorem encodeChar_of_scan (hscan : scan lead rest = (some char, taken)) :
    encodeChar char = lead :: rest.take taken := by
  obtain ⟨code, hspells, rfl⟩ := spells_of_scan hscan
  exact encodeChar_of_spells hspells

/-- Whatever follows the bytes of a character, they are taken for it. -/
theorem scan_encodeChar (char : Char) : ∃ lead bytes, encodeChar char = lead :: bytes ∧
    ∀ rest, scan lead (bytes ++ rest) = (some char, bytes.length) := by
  have hspells := spells_encodeChar char
  generalize encodeChar char = all at hspells
  cases all with
  | nil => cases hspells
  | cons lead bytes =>
      refine ⟨lead, bytes, rfl, ?_⟩
      intro rest
      rw [scan_of_spells hspells, Char.ofNat_toNat]

/-! ## Texts -/

@[simp]
theorem encode_nil : encode [] = [] := rfl

@[simp]
theorem encode_cons (char : Char) (text : List Char) :
    encode (char :: text) = encodeChar char ++ encode text := rfl

theorem decodeLossy_encodeChar_append (char : Char) (rest : List UInt8) :
    decodeLossy (encodeChar char ++ rest) = char :: decodeLossy rest := by
  obtain ⟨lead, bytes, hbytes, hscan⟩ := scan_encodeChar char
  rw [hbytes, List.cons_append, decodeLossy, hscan, List.drop_left]
  rfl

/-- The lenient reader loses nothing of a text. -/
@[simp]
theorem decodeLossy_encode (text : List Char) : decodeLossy (encode text) = text := by
  induction text with
  | nil => rw [encode_nil, decodeLossy]
  | cons char text ih => rw [encode_cons, decodeLossy_encodeChar_append, ih]

theorem decodeFrom_encode (index : Nat) (text : List Char) :
    decodeFrom index (encode text) = .ok text := by
  induction text generalizing index with
  | nil => rw [encode_nil, decodeFrom]
  | cons char text ih =>
      obtain ⟨lead, bytes, hbytes, hscan⟩ := scan_encodeChar char
      rw [encode_cons, hbytes, List.cons_append, decodeFrom, hscan]
      simp only [List.drop_left, ih]
      rfl

theorem encode_of_decodeFrom {text : List Char} (hdecode : decodeFrom index bytes = .ok text) :
    bytes = encode text := by
  fun_induction decodeFrom index bytes generalizing text with
  | case1 index => exact (Except.ok.inj hdecode) ▸ rfl
  | case2 index lead rest hscan => cases hdecode
  | case3 index lead rest char hscan taken =>
      rename_i ih
      have hchar : encodeChar char = lead :: rest.take taken :=
        encodeChar_of_scan (Prod.ext hscan rfl)
      cases hrest : decodeFrom (index + 1 + taken) (rest.drop taken) with
      | error fault => simp [hrest, Except.map] at hdecode
      | ok others =>
          rw [hrest] at hdecode
          rw [← Except.ok.inj hdecode, encode_cons, hchar, ← ih hrest, List.cons_append,
            List.take_append_drop]

/-- The strict reader reads the encodings of texts and nothing else. -/
theorem decode_eq_ok_iff {text : List Char} : decode bytes = .ok text ↔ bytes = encode text := by
  constructor
  · exact encode_of_decodeFrom
  · rintro rfl
    exact decodeFrom_encode 0 text

theorem encodeChar_eq (char : Char) : encodeChar char = String.utf8EncodeChar char := by
  have hvalid : char.toNat.isValidChar := char.valid
  simp only [encodeChar, String.utf8EncodeChar, Char.toNat_val, Nat.toUInt8]
  generalize char.toNat = code at hvalid
  simp only [Nat.isValidChar] at hvalid
  split_ifs <;> simp only [List.cons.injEq, ← UInt8.toNat_inj, UInt8.toNat_ofNat', and_true,
    reduceCtorEq, and_false] <;> omega

/-- The byte strings that are well-formed are the encodings of texts. -/
theorem isValidUTF8_iff : bytes.toByteArray.IsValidUTF8 ↔ ∃ text, bytes = encode text := by
  have hencode : ∀ text : List Char, text.utf8Encode = (encode text).toByteArray := by
    intro text
    rw [encode, funext encodeChar_eq, List.utf8Encode]
  constructor
  · rintro ⟨text, htext⟩
    rw [hencode, List.toByteArray_inj] at htext
    exact ⟨text, htext⟩
  · rintro ⟨text, rfl⟩
    exact ⟨text, (hencode text).symm⟩

end Muster.Text.Utf8
