import Muster.Probe.Message
import Muster.Proofs.Text.Utf8

/-!
# Framing of messages

A message and its datagram determine each other.  Every datagram gets one of four verdicts, read
off its marker and its text; the messages among them are proper, and a datagram of well-formed text
is the only one that writes its message.
-/

namespace Muster

namespace Text

variable {before after text : List Char} {blank : Char}

/-- The cut is at the first blank. -/
theorem cutAtBlank?_eq_some_iff : cutAtBlank? text = some (before, blank, after) ↔
    text = before ++ blank :: after ∧ isBlank blank ∧ ∀ char ∈ before, isBlank char = false := by
  induction text generalizing before with
  | nil => simp [cutAtBlank?]
  | cons char rest ih =>
      rw [cutAtBlank?]
      split
      case isTrue hchar =>
        cases before with
        | nil =>
            simp only [Option.some.injEq, Prod.mk.injEq, true_and, List.nil_append,
              List.cons.injEq, List.not_mem_nil, false_imp_iff, implies_true, and_true]
            constructor
            · rintro ⟨rfl, rfl⟩
              exact ⟨⟨rfl, rfl⟩, hchar⟩
            · exact And.left
        | cons first others =>
            simp only [Option.some.injEq, Prod.mk.injEq, List.nil_eq, reduceCtorEq, false_and,
              List.cons_append, List.cons.injEq, List.forall_mem_cons, false_iff]
            rintro ⟨⟨rfl, -⟩, -, hfirst, -⟩
            simp [hchar] at hfirst
      case isFalse hchar =>
        rw [Bool.not_eq_true] at hchar
        cases before with
        | nil =>
            simp only [Option.map_eq_some_iff, Prod.mk.injEq, reduceCtorEq, false_and, and_false,
              exists_false, List.nil_append, List.cons.injEq, false_iff]
            rintro ⟨⟨rfl, -⟩, hblank, -⟩
            simp [hchar] at hblank
        | cons first others =>
            simp only [Option.map_eq_some_iff, Prod.mk.injEq, List.cons.injEq, Prod.exists,
              List.cons_append, List.forall_mem_cons]
            constructor
            · rintro ⟨cut, found, tail, hcut, ⟨rfl, rfl⟩, rfl, rfl⟩
              obtain ⟨hrest, hblank, hnone⟩ := ih.mp hcut
              exact ⟨⟨rfl, hrest⟩, hblank, hchar, hnone⟩
            · rintro ⟨⟨rfl, hrest⟩, hblank, -, hnone⟩
              exact ⟨_, _, _, ih.mpr ⟨hrest, hblank, hnone⟩, ⟨rfl, rfl⟩, rfl, rfl⟩

theorem cutAtBlank?_eq_none_iff :
    cutAtBlank? text = none ↔ ∀ char ∈ text, isBlank char = false := by
  induction text with
  | nil => simp [cutAtBlank?]
  | cons char rest ih =>
      rw [cutAtBlank?]
      split
      case isTrue hchar => simp [hchar]
      case isFalse hchar => simp [hchar, ih]

end Text

namespace Message

variable {message : Message} {command data shown : String} {separator : Char} {text : List Char}
  {datagram payload : List UInt8}

/-- The parts of a message can be told apart again. -/
def IsProper (message : Message) : Prop :=
  isCommand message.command.toList ∧ Text.isBlank message.separator

theorem ofParts_eq_ok_iff : ofParts command data separator = .ok message ↔
    message = ⟨command, data, separator⟩ ∧ message.IsProper := by
  rw [ofParts]
  split
  case isTrue hcommand =>
    simp only [reduceCtorEq, false_iff]
    rintro ⟨rfl, hproper⟩
    simp [hproper.1] at hcommand
  case isFalse hcommand =>
    split
    case isTrue hseparator =>
      simp only [reduceCtorEq, false_iff]
      rintro ⟨rfl, hproper⟩
      simp [hproper.2] at hseparator
    case isFalse hseparator =>
      simp only [Bool.not_eq_true, Bool.not_eq_false'] at hcommand hseparator
      simp only [Except.ok.injEq, eq_comm (b := message)]
      constructor
      · rintro rfl
        exact ⟨rfl, hcommand, hseparator⟩
      · exact And.left

/-! ## Texts -/

theorem ofText_eq_missingSeparator_iff : ofText text = .error (.missingSeparator shown) ↔
    shown = String.ofList text ∧ ∀ char ∈ text, Text.isBlank char = false := by
  rw [← Text.cutAtBlank?_eq_none_iff, ofText]
  split
  case h_1 hcut => simp [hcut, eq_comm]
  case h_2 hcut => simp [hcut]
  case h_3 hcut => simp [hcut]

theorem ofText_eq_invalidCommand_iff : ofText text = .error .invalidCommand ↔
    ∃ blank rest, text = blank :: rest ∧ Text.isBlank blank := by
  have hcut : (∃ blank rest, text = blank :: rest ∧ Text.isBlank blank) ↔
      ∃ blank rest, Text.cutAtBlank? text = some ([], blank, rest) := by
    simp [Text.cutAtBlank?_eq_some_iff]
  rw [hcut, ofText]
  split
  case h_1 hnone => simp [hnone]
  case h_2 blank rest hsome => simp [hsome]
  case h_3 hbefore hsome => simpa [hsome] using hbefore

/-- The proper message of a text is the only one with that text. -/
theorem ofText_eq_ok_iff :
    ofText text = .ok message ↔ message.IsProper ∧ message.text = text := by
  have hcut : message.IsProper ∧ message.text = text ↔
      message.command.toList ≠ [] ∧ Text.cutAtBlank? text =
        some (message.command.toList, message.separator, message.data.toList) := by
    simp only [Text.cutAtBlank?_eq_some_iff, IsProper, isCommand, Message.text, Bool.and_eq_true,
      Bool.not_eq_true', List.isEmpty_eq_false_iff, List.any_eq_false, Bool.not_eq_true]
    constructor
    · rintro ⟨⟨⟨hnonempty, hnone⟩, hblank⟩, rfl⟩
      exact ⟨hnonempty, rfl, hblank, hnone⟩
    · rintro ⟨hnonempty, rfl, hblank, hnone⟩
      exact ⟨⟨⟨hnonempty, hnone⟩, hblank⟩, rfl⟩
  rw [hcut, ofText]
  split
  case h_1 hnone => simp [hnone]
  case h_2 hsome =>
    simp only [hsome, Option.some.injEq, Prod.mk.injEq, reduceCtorEq, false_iff]
    rintro ⟨hcommand, hnil, -⟩
    exact hcommand hnil.symm
  case h_3 command separator data hcommand hsome =>
    simp only [hsome, Except.ok.injEq, Option.some.injEq, Prod.mk.injEq]
    constructor
    · rintro rfl
      simpa [String.toList_ofList] using hcommand
    · rintro ⟨-, rfl, rfl, rfl⟩
      simp only [String.ofList_toList]

/-- A text holds a message when it has a blank after its first character and not as it. -/
theorem exists_ofText_eq_ok_iff : (∃ message, ofText text = .ok message) ↔
    ∃ first rest, text = first :: rest ∧ Text.isBlank first = false ∧
      ∃ char ∈ rest, Text.isBlank char := by
  constructor
  · rintro ⟨message, hmessage⟩
    obtain ⟨⟨hcommand, hblank⟩, rfl⟩ := ofText_eq_ok_iff.mp hmessage
    simp only [isCommand, Bool.and_eq_true, Bool.not_eq_true', List.isEmpty_eq_false_iff,
      List.any_eq_false, Bool.not_eq_true] at hcommand
    obtain ⟨first, rest, hfirst⟩ := List.exists_cons_of_ne_nil hcommand.1
    refine ⟨first, rest ++ message.separator :: message.data.toList, ?_, ?_, ?_⟩
    · rw [Message.text, hfirst, List.cons_append]
    · exact hcommand.2 first (hfirst ▸ List.mem_cons_self)
    · exact ⟨message.separator, List.mem_append_cons_self, hblank⟩
  · rintro ⟨first, rest, rfl, hfirst, char, hchar, hblank⟩
    rw [ofText]
    split
    case h_1 hnone =>
      have hnot := Text.cutAtBlank?_eq_none_iff.mp hnone char (List.mem_cons_of_mem first hchar)
      simp [hblank] at hnot
    case h_2 blank after hsome =>
      obtain ⟨htext, hisBlank, -⟩ := Text.cutAtBlank?_eq_some_iff.mp hsome
      have hhead : first = blank := (List.cons.inj htext).1
      simp [← hhead, hfirst] at hisBlank
    case h_3 command separator data hcommand hsome => exact ⟨_, rfl⟩

/-! ## Datagrams -/

theorem payload?_eq_some_iff : payload? datagram = some payload ↔ datagram = marker ++ payload := by
  fun_cases payload? datagram
  case case1 rest => simp [marker]
  case case2 hmarker =>
    simp only [reduceCtorEq, false_iff]
    rintro rfl
    exact hmarker payload rfl

theorem payload?_eq_none_iff : payload? datagram = none ↔ ¬ marker <+: datagram := by
  rw [Option.eq_none_iff_forall_ne_some]
  constructor
  · rintro hnone ⟨payload, hpayload⟩
    exact hnone payload (payload?_eq_some_iff.mpr hpayload.symm)
  · intro hmarker payload hsome
    exact hmarker ⟨payload, (payload?_eq_some_iff.mp hsome).symm⟩

theorem decode_marker_append (payload : List UInt8) :
    decode (marker ++ payload) = ofText (Text.Utf8.decodeLossy payload) := by
  rw [decode, payload?_eq_some_iff.mpr rfl]

theorem decode_eq_missingMarker_iff :
    decode datagram = .error .missingMarker ↔ ¬ marker <+: datagram := by
  rw [← payload?_eq_none_iff]
  cases hpayload : payload? datagram with
  | none => simp [decode, hpayload]
  | some payload =>
      rw [payload?_eq_some_iff.mp hpayload, decode_marker_append, ofText]
      split <;> simp

theorem decode_encode (hproper : message.IsProper) : decode message.encode = .ok message := by
  rw [encode, decode_marker_append, Text.Utf8.decodeLossy_encode]
  exact ofText_eq_ok_iff.mpr ⟨hproper, rfl⟩

/-- A message made of parts is read back from its datagram.  A datagram without the marker is
refused; of the others, one whose text has no blank is refused for that, with the text; one whose
text begins with a blank is refused for its command; and every other one is read.  What is read is
a message that parts make, and so is read back again; where the payload is well-formed, its
datagram is the one it was read from. -/
theorem framing_is_lossless :
    (∀ command data separator message, ofParts command data separator = .ok message →
      decode message.encode = .ok message) ∧
    ∀ datagram, (decode datagram = .error .missingMarker ↔ ¬ marker <+: datagram) ∧
      ∀ payload, datagram = marker ++ payload →
        (∀ shown, decode datagram = .error (.missingSeparator shown) ↔
          shown = String.ofList (Text.Utf8.decodeLossy payload) ∧
            ∀ char ∈ Text.Utf8.decodeLossy payload, Text.isBlank char = false) ∧
        (decode datagram = .error .invalidCommand ↔
          ∃ blank rest, Text.Utf8.decodeLossy payload = blank :: rest ∧ Text.isBlank blank) ∧
        ((∃ first rest, Text.Utf8.decodeLossy payload = first :: rest ∧
            Text.isBlank first = false ∧ ∃ char ∈ rest, Text.isBlank char) ↔
          ∃ message, decode datagram = .ok message) ∧
        ∀ message, decode datagram = .ok message →
          ofParts message.command message.data message.separator = .ok message ∧
          message.text = Text.Utf8.decodeLossy payload ∧
          decode message.encode = .ok message ∧
          (payload.toByteArray.IsValidUTF8 → message.encode = datagram) := by
  constructor
  · intro command data separator message hparts
    exact decode_encode (ofParts_eq_ok_iff.mp hparts).2
  · intro datagram
    refine ⟨decode_eq_missingMarker_iff, ?_⟩
    rintro payload rfl
    rw [decode_marker_append]
    refine ⟨fun shown => ofText_eq_missingSeparator_iff, ofText_eq_invalidCommand_iff,
      exists_ofText_eq_ok_iff.symm, ?_⟩
    intro message hmessage
    obtain ⟨hproper, htext⟩ := ofText_eq_ok_iff.mp hmessage
    refine ⟨ofParts_eq_ok_iff.mpr ⟨rfl, hproper⟩, htext, decode_encode hproper, ?_⟩
    intro hvalid
    obtain ⟨text, rfl⟩ := Text.Utf8.isValidUTF8_iff.mp hvalid
    rw [encode, htext, Text.Utf8.decodeLossy_encode]

/-- A separator of three bytes is read as the one character that it is. -/
theorem framing_is_lossless_of_wide_blank :
    ofParts "é" "b\u3000" '\u3000' = .ok ⟨"é", "b\u3000", '\u3000'⟩ ∧
    decode (encode ⟨"é", "b\u3000", '\u3000'⟩) = .ok ⟨"é", "b\u3000", '\u3000'⟩ ∧
    [0xC3, 0xA9, 0xE3, 0x80, 0x80, 0x62].toByteArray.IsValidUTF8 ∧
    decode [0xFF, 0xFF, 0xFF, 0xFF, 0xC3, 0xA9, 0xE3, 0x80, 0x80, 0x62] =
      .ok ⟨"é", "b", '\u3000'⟩ ∧
    encode ⟨"é", "b", '\u3000'⟩ =
      [0xFF, 0xFF, 0xFF, 0xFF, 0xC3, 0xA9, 0xE3, 0x80, 0x80, 0x62] := by
  have hparts : ofParts "é" "b\u3000" '\u3000' =
      .ok ⟨"é", "b\u3000", '\u3000'⟩ :=
    ofParts_eq_ok_iff.mpr ⟨rfl, by decide, by decide⟩
  have hbytes : [0xC3, 0xA9, 0xE3, 0x80, 0x80, 0x62] = Text.Utf8.encode ['é', '\u3000', 'b'] := by
    decide
  have hvalid : [0xC3, 0xA9, 0xE3, 0x80, 0x80, 0x62].toByteArray.IsValidUTF8 :=
    Text.Utf8.isValidUTF8_iff.mpr ⟨_, hbytes⟩
  have hdecode : decode (marker ++ [0xC3, 0xA9, 0xE3, 0x80, 0x80, 0x62]) =
      .ok ⟨"é", "b", '\u3000'⟩ := by
    rw [hbytes, decode_marker_append, Text.Utf8.decodeLossy_encode]
    rfl
  obtain ⟨hmade, hread⟩ := framing_is_lossless
  obtain ⟨-, -, -, hmessage⟩ := (hread _).2 _ rfl
  exact ⟨hparts, hmade _ _ _ _ hparts, hvalid, hdecode, (hmessage _ hdecode).2.2.2 hvalid⟩

end Message

end Muster
