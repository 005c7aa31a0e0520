import Mathlib.Data.List.Infix
import Muster.Net.HostPort
import Muster.Proofs.Net.Addresses
import Muster.Proofs.Text.Numeral

/-!
# The text of hosts and ports

An endpoint is read back from its text, and so is a host and a port, whatever the text was in which
they were named.  A host without colons could be taken for an address when it is written again, but
then it is the text of that address, so the same host and port are read.
-/

namespace Muster

open Text

/-! ## Endpoints -/

namespace Endpoint

variable {endpoint : Endpoint} {port : UInt16} {text rest : List Char}

def portText (port : UInt16) : List Char :=
  ':' :: Nat.toDigits 10 port.toNat

def zoneText (zone : UInt32) : List Char :=
  if zone = 0 then [] else '%' :: Nat.toDigits 10 zone.toNat

theorem number?_port (port : UInt16) :
    Ip.number? 10 none 0xFFFF (Nat.toDigits 10 port.toNat) = some (port.toNat, []) := by
  rw [← List.append_nil (Nat.toDigits 10 port.toNat)]
  exact Ip.number?_toDigits (by decide) (by decide) (Nat.le_of_lt_succ port.toNat_lt) (by simp)
    (by simp)

theorem readPort?_portText (port : UInt16) : readPort? (portText port) = some (port, []) := by
  have hcolon : Ip.char? ':' (portText port) = some (Nat.toDigits 10 port.toNat) :=
    Ip.char?_eq_some_iff.mpr rfl
  simp only [readPort?, hcolon, number?_port, Option.bind_eq_bind, Option.bind_some,
    Option.pure_def, Nat.toUInt16_eq, UInt16.ofNat_toNat]

theorem readZone_zoneText (zone : UInt32) (rest : List Char) :
    readZone (zoneText zone ++ ']' :: rest) = (zone, ']' :: rest) := by
  rw [zoneText]
  split
  case isTrue hnone =>
    rw [hnone]
    rfl
  case isFalse =>
    have hnumber : Ip.number? 10 none 0xFFFFFFFF (Nat.toDigits 10 zone.toNat ++ ']' :: rest) =
        some (zone.toNat, ']' :: rest) :=
      Ip.number?_toDigits (by decide) (by decide) (Nat.le_of_lt_succ zone.toNat_lt) (by simp)
        (Ip.not_isDigit_head ']' rfl rest)
    have hpercent : Ip.char? '%' ('%' :: (Nat.toDigits 10 zone.toNat ++ ']' :: rest)) =
        some (Nat.toDigits 10 zone.toNat ++ ']' :: rest) := Ip.char?_eq_some_iff.mpr rfl
    rw [List.cons_append, readZone, hpercent, Option.bind_some, hnumber]
    simp only [Nat.toUInt32_eq, UInt32.ofNat_toNat]

theorem endsGroups_zoneText (zone : UInt32) (rest : List Char) :
    Ip.EndsGroups (zoneText zone ++ ']' :: rest) := by
  rw [zoneText]
  split
  · exact Ip.endsGroups_of_ne (by decide) (by decide) (by decide) rest
  · exact Ip.endsGroups_of_ne (by decide) (by decide) (by decide) _

theorem toList_text_of_v4 (hip : endpoint.ip.isV6 = false) :
    endpoint.text.toList = endpoint.ip.text.toList ++ portText endpoint.port := by
  obtain ⟨ip, port, zone⟩ := endpoint
  cases ip with
  | v6 => cases hip
  | v4 a b c d =>
      have hcolon : ":".toList = [':'] := rfl
      have hport : (toString port.toNat).toList = Nat.toDigits 10 port.toNat := Nat.toList_repr
      simp only [Endpoint.text, String.toList_append, hcolon, hport]
      rfl

/-- The colons of a long address are told apart from that of the port by brackets. -/
theorem toList_text_of_v6 (hip : endpoint.ip.isV6) :
    endpoint.text.toList = '[' :: (endpoint.ip.text.toList ++
      (zoneText endpoint.zone ++ ']' :: portText endpoint.port)) := by
  obtain ⟨ip, port, zone⟩ := endpoint
  cases ip with
  | v4 => cases hip
  | v6 g₀ g₁ g₂ g₃ g₄ g₅ g₆ g₇ =>
      have hcolon : ":".toList = [':'] := rfl
      have hopen : "[".toList = ['['] := rfl
      have hclose : "]".toList = [']'] := rfl
      have hport : (toString port.toNat).toList = Nat.toDigits 10 port.toNat := Nat.toList_repr
      have hzone : (if zone = 0 then "" else "%" ++ toString zone.toNat).toList =
          zoneText zone := by
        rw [zoneText]
        split
        · rfl
        · rw [String.toList_append]
          exact congrArg ('%' :: ·) Nat.toList_repr
      simp only [Endpoint.text, String.toList_append, hcolon, hopen, hclose, hport, hzone,
        List.append_assoc]
      rfl

theorem readV4?_eq_none (htext : ∀ char ∈ text.head?, ¬ Ip.isDigit 10 char) :
    readV4? text = none := by
  rw [readV4?, Ip.readV4?, Ip.dotted?_eq_none htext]
  rfl

/-- An endpoint is read back from its text. -/
theorem ofText?_text (hzone : endpoint.ip.isV6 = false → endpoint.zone = 0) :
    ofText? endpoint.text = some endpoint := by
  obtain ⟨ip, port, zone⟩ := endpoint
  cases hip : ip.isV6 with
  | false =>
      obtain rfl : zone = 0 := hzone hip
      have hread : Ip.readV4? (ip.text.toList ++ portText port) = some (ip, portText port) :=
        Ip.readV4?_text hip (Ip.not_isDigit_head ':' rfl _)
      have hwhole : readV4? (ip.text.toList ++ portText port) = some (.ofIp ip port, []) := by
        simp only [readV4?, hread, readPort?_portText, Option.bind_eq_bind, Option.bind_some,
          Option.pure_def]
      rw [ofText?, toList_text_of_v4 hip, Ip.whole?, hwhole]
      rfl
  | true =>
      have hread := Ip.readV6?_text hip (endsGroups_zoneText zone (portText port))
      have hopen : ∀ more, Ip.char? '[' ('[' :: more) = some more := fun more =>
        Ip.char?_eq_some_iff.mpr rfl
      have hclose : ∀ more, Ip.char? ']' (']' :: more) = some more := fun more =>
        Ip.char?_eq_some_iff.mpr rfl
      have hwhole : readV6? ('[' :: (ip.text.toList ++ (zoneText zone ++ ']' :: portText port))) =
          some (⟨ip, port, zone⟩, []) := by
        simp only [readV6?, hopen, hread, readZone_zoneText, hclose, readPort?_portText,
          Option.bind_eq_bind, Option.bind_some, Option.pure_def]
      rw [ofText?, toList_text_of_v6 hip, Ip.whole?,
        readV4?_eq_none (Ip.not_isDigit_head '[' rfl _), Ip.whole?, hwhole]
      rfl

end Endpoint

/-! ## Colons -/

namespace Ip

variable {text rest tail : List Char}

theorem whole?_eq_some_iff {α : Type} {read : List Char → Option (α × List Char)} {value : α} :
    whole? read text = some value ↔ read text = some (value, []) := by
  rw [whole?]
  split
  case h_1 found hread => simp [hread]
  case h_2 hnot =>
    simp only [reduceCtorEq, false_iff]
    exact hnot value

theorem colon_not_mem_toDigits (value : Nat) : ':' ∉ Nat.toDigits 10 value := fun hmember =>
  absurd (isDigit_of_mem_toDigits (by decide) (by decide) value ':' hmember) (by decide)

theorem colon_not_mem_text {ip : Ip} (hip : ip.isV6 = false) : ':' ∉ ip.text.toList := by
  cases ip with
  | v6 => cases hip
  | v4 a b c d =>
      simp only [text, toList_dotted, List.mem_append, List.mem_cons, colon_not_mem_toDigits,
        false_or, or_false]
      decide

/-- Two groups have a colon between them. -/
theorem colon_mem_groupsText (isFirst : Bool) (first second : Nat) (others : List Nat) :
    ':' ∈ groupsText isFirst (first :: second :: others) := by
  simp [groupsText, leadingColon]

theorem colon_mem_text {ip : Ip} (hip : ip.isV6) : ':' ∈ ip.text.toList := by
  cases ip with
  | v4 => cases hip
  | v6 g₀ g₁ g₂ g₃ g₄ g₅ g₆ g₇ =>
      rw [text]
      split
      case isTrue =>
        rw [String.toList_append]
        exact List.mem_append_left _ List.mem_cons_self
      case isFalse =>
        rcases toList_compressed (v6 g₀ g₁ g₂ g₃ g₄ g₅ g₆ g₇).groups with htext | hruns
        · rw [htext]
          exact colon_mem_groupsText true g₀.toNat g₁.toNat _
        · obtain ⟨before, zeros, after, -, -, htext⟩ := hruns
          rw [htext]
          exact List.mem_append_right _ List.mem_cons_self

theorem suffix_of_number? {base value limit : Nat} {maxDigits : Option Nat}
    (hread : number? base maxDigits limit text = some (value, rest)) : rest <:+ text := by
  obtain ⟨digits, -, -, rfl, -⟩ := exists_digits_of_number? hread
  exact List.suffix_append digits rest

theorem suffix_of_afterColon? {isFirst : Bool} (hread : afterColon? isFirst text = some rest) :
    rest <:+ text := by
  cases isFirst with
  | true =>
      obtain rfl := Option.some.inj hread
      exact List.suffix_rfl
  | false =>
      rw [char?_eq_some_iff.mp hread]
      exact List.suffix_cons ':' rest

/-- Either no group is read, or the text goes on behind the colon in front of the first one. -/
theorem readGroups_cases (isFirst : Bool) (room : Nat) (text : List Char) :
    readGroups isFirst room text = ([], false, text) ∨
      ∃ tail, afterColon? isFirst text = some tail ∧
        (readGroups isFirst room text).2.2 <:+ tail := by
  induction room generalizing isFirst text with
  | zero => exact .inl rfl
  | succ room ih =>
      rw [readGroups]
      split
      case h_1 a b c d rest hread =>
        right
        obtain ⟨-, hbind⟩ := Option.ite_none_left_eq_some.mp hread
        obtain ⟨tail, htail, hdotted⟩ := Option.bind_eq_some_iff.mp hbind
        rw [(text_of_dotted? hdotted).1] at htail
        exact ⟨_, htail, List.suffix_append _ rest⟩
      case h_2 =>
        split
        case h_1 => exact .inl rfl
        case h_2 group rest hread =>
          right
          obtain ⟨tail, htail, hnumber⟩ := Option.bind_eq_some_iff.mp hread
          refine ⟨tail, htail, List.IsSuffix.trans ?_ (suffix_of_number? hnumber)⟩
          rcases ih false rest with hnone | ⟨more, hmore, hsuffix⟩
          · rw [hnone]
          · exact hsuffix.trans (suffix_of_afterColon? hmore)

theorem suffix_readGroups (isFirst : Bool) (room : Nat) (text : List Char) :
    (readGroups isFirst room text).2.2 <:+ text := by
  rcases readGroups_cases isFirst room text with hnone | ⟨tail, htail, hsuffix⟩
  · rw [hnone]
  · exact hsuffix.trans (suffix_of_afterColon? htail)

/-- Where more groups are read than a short address makes up, there is a colon between them. -/
theorem count_colon_readGroups {isFirst : Bool} {room : Nat}
    (hlength : 2 < (readGroups isFirst room text).1.length) :
    (readGroups isFirst room text).2.2.count ':' < text.count ':' := by
  cases room with
  | zero => exact absurd hlength (Nat.not_lt_zero 2)
  | succ room =>
      unfold readGroups at hlength ⊢
      split at hlength
      case h_1 => exact absurd hlength (Nat.lt_irrefl 2)
      case h_2 hnone =>
        split at hlength
        case h_1 => exact absurd hlength (Nat.not_lt_zero 2)
        case h_2 group rest hread =>
          rcases readGroups_cases false room rest with hempty | ⟨tail, htail, hsuffix⟩
          · rw [hempty] at hlength
            exact absurd hlength (show ¬ 2 < 1 by decide)
          · obtain ⟨start, hstart, hnumber⟩ := Option.bind_eq_some_iff.mp hread
            calc (readGroups false room rest).2.2.count ':'
                ≤ tail.count ':' := hsuffix.sublist.count_le ':'
              _ < (':' :: tail).count ':' := by rw [List.count_cons_self]; omega
              _ = rest.count ':' := by rw [char?_eq_some_iff.mp htail]
              _ ≤ start.count ':' := (suffix_of_number? hnumber).sublist.count_le ':'
              _ ≤ text.count ':' := (suffix_of_afterColon? hstart).sublist.count_le ':'

theorem count_colon_readV6? {ip : Ip} (hread : readV6? text = some (ip, rest)) :
    rest.count ':' < text.count ':' := by
  have hmany := @count_colon_readGroups text true 8
  have hfew := (suffix_readGroups true 8 text).sublist.count_le ':'
  rcases hgroups : readGroups true 8 text with ⟨front, embedded, behind⟩
  rw [hgroups] at hmany hfew
  rw [readV6?, hgroups] at hread
  simp only at hread hmany hfew
  split at hread
  case isTrue hall =>
    obtain ⟨read, -, hpair⟩ := Option.map_eq_some_iff.mp hread
    rw [← (Prod.mk.inj hpair).2]
    exact hmany (by omega)
  case isFalse =>
    rw [Option.ite_none_left_eq_some] at hread
    simp only [Option.bind_eq_bind, Option.bind_eq_some_iff, char?_eq_some_iff,
      Option.map_eq_some_iff, Prod.mk.injEq] at hread
    obtain ⟨-, second, rfl, back, rfl, read, -, -, rfl⟩ := hread
    have hback := (suffix_readGroups true (7 - front.length) back).sublist.count_le ':'
    rw [List.count_cons_self, List.count_cons_self] at hfew
    exact Nat.lt_of_le_of_lt hback (by omega)

end Ip

namespace Endpoint

theorem suffix_readZone (text : List Char) : (readZone text).2 <:+ text := by
  rw [readZone]
  split
  case h_1 zone rest hread =>
    obtain ⟨tail, hpercent, hnumber⟩ := Option.bind_eq_some_iff.mp hread
    rw [Ip.char?_eq_some_iff.mp hpercent]
    exact (Ip.suffix_of_number? hnumber).trans (List.suffix_cons '%' tail)
  case h_2 => exact List.suffix_rfl

/-- There is a colon inside the brackets, and one in front of the port. -/
theorem two_le_count_colon {endpoint : Endpoint} {text rest : List Char}
    (hread : readV6? text = some (endpoint, rest)) : 2 ≤ text.count ':' := by
  simp only [readV6?, readPort?, Option.bind_eq_bind, Option.bind_eq_some_iff,
    Ip.char?_eq_some_iff, Option.pure_def, Prod.exists] at hread
  obtain ⟨inside, rfl, ip, behind, hip, closed, hzone, port, others, ⟨number, hport, -⟩, -⟩ := hread
  have hbehind := (suffix_readZone behind).sublist.count_le ':'
  have hinside := Ip.count_colon_readV6? hip
  rw [hzone, hport, List.count_cons_of_ne (by decide), List.count_cons_self] at hbehind
  rw [List.count_cons_of_ne (by decide)]
  omega

end Endpoint

/-! ## Hosts and ports -/

namespace HostPort

variable {address : HostPort} {endpoint : Endpoint} {text : String} {before after : List Char}

theorem toList_text (address : HostPort) : address.text.toList =
    (if ':' ∈ address.host.toList then '[' :: (address.host.toList ++ [']'])
      else address.host.toList) ++ Endpoint.portText address.port := by
  have hcolon : ":".toList = [':'] := rfl
  have hopen : "[".toList = ['['] := rfl
  have hclose : "]".toList = [']'] := rfl
  have hport : (toString address.port.toNat).toList = Nat.toDigits 10 address.port.toNat :=
    Nat.toList_repr
  rw [HostPort.text, String.toList_append, String.toList_append, hcolon, hport, List.append_assoc]
  simp only [List.contains_iff_mem]
  split
  · rw [String.toList_append, String.toList_append, hopen, hclose]
    simp only [Endpoint.portText, List.cons_append, List.nil_append, List.append_assoc]
  · rfl

theorem text_ofEndpoint (endpoint : Endpoint) :
    (ofEndpoint endpoint).text = endpoint.withoutZone.text := by
  rw [← String.toList_inj, toList_text]
  cases hip : endpoint.ip.isV6 with
  | false =>
      have hcolon : ':' ∉ (ofEndpoint endpoint).host.toList := Ip.colon_not_mem_text hip
      have htext := @Endpoint.toList_text_of_v4 endpoint.withoutZone hip
      rw [if_neg hcolon, htext]
      rfl
  | true =>
      have hcolon : ':' ∈ (ofEndpoint endpoint).host.toList := Ip.colon_mem_text hip
      have htext := @Endpoint.toList_text_of_v6 endpoint.withoutZone hip
      rw [if_pos hcolon, htext, List.cons_append, List.append_assoc]
      rfl

/-- An endpoint is named by its text. -/
theorem ofText?_text_ofEndpoint (endpoint : Endpoint) :
    ofText? (ofEndpoint endpoint).text = some (ofEndpoint endpoint) := by
  have hread : Endpoint.ofText? endpoint.withoutZone.text = some endpoint.withoutZone :=
    Endpoint.ofText?_text fun _ => rfl
  rw [text_ofEndpoint, ofText?, hread]
  rfl

theorem cutAtLastColon?_eq_none (hafter : ':' ∉ after) : cutAtLastColon? after = none := by
  induction after with
  | nil => rfl
  | cons char rest ih =>
      rw [List.mem_cons, not_or] at hafter
      rw [cutAtLastColon?, ih hafter.2]
      exact if_neg (Ne.symm hafter.1)

theorem cutAtLastColon?_append (before : List Char) (hafter : ':' ∉ after) :
    cutAtLastColon? (before ++ ':' :: after) = some (before, after) := by
  induction before with
  | nil =>
      rw [List.nil_append, cutAtLastColon?, cutAtLastColon?_eq_none hafter]
      exact if_pos rfl
  | cons char rest ih => rw [List.cons_append, cutAtLastColon?, ih]

/-- The first colon splits a text in one way only. -/
theorem firstColon_inj {other others : List Char} (hbefore : ':' ∉ before) (hother : ':' ∉ other)
    (htext : before ++ ':' :: after = other ++ ':' :: others) :
    before = other ∧ after = others := by
  have hkept : ∀ {front : List Char}, ':' ∉ front → ∀ char ∈ front, (char != ':') = true := by
    intro front hfront char hchar
    exact bne_iff_ne.mpr fun hcolon => hfront (hcolon ▸ hchar)
  have hends : ∀ rest : List Char, ∀ char ∈ (':' :: rest).head?, ¬ (char != ':') = true := by
    intro rest char hchar
    obtain rfl := Option.some.inj hchar
    decide
  obtain ⟨hfront, hrest⟩ := span_inj htext (hkept hbefore) (hends after) (hkept hother)
    (hends others)
  exact ⟨hfront, (List.cons.inj hrest).2⟩

/-- Where a text without brackets is that of an endpoint, the host is its address. -/
theorem ofEndpoint_of_text (hcolon : ':' ∉ address.host.toList)
    (hread : Endpoint.ofText? address.text = some endpoint) : ofEndpoint endpoint = address := by
  have htext := toList_text address
  rw [if_neg hcolon] at htext
  rw [Endpoint.ofText?, htext, Option.orElse_eq_or, Option.or_eq_some_iff] at hread
  rcases hread with hshort | ⟨-, hlong⟩
  case inl =>
    have hshort := Ip.whole?_eq_some_iff.mp hshort
    simp only [Endpoint.readV4?, Endpoint.readPort?, Option.bind_eq_bind, Option.bind_eq_some_iff,
      Ip.char?_eq_some_iff, Option.pure_def, Prod.exists, Option.some.injEq, Prod.mk.injEq]
      at hshort
    obtain ⟨ip, behind, hip, port, rest, ⟨digits, rfl, number, -, hnumber, rfl, rfl⟩, rfl, rfl⟩ :=
      hshort
    obtain ⟨hwhole, hisV4⟩ := Ip.text_of_readV4? hip
    obtain ⟨hhost, rfl⟩ := firstColon_inj hcolon (Ip.colon_not_mem_text hisV4) hwhole
    rw [Endpoint.number?_port] at hnumber
    obtain ⟨rfl, -⟩ := Prod.mk.inj (Option.some.inj hnumber)
    have hname : ip.text = address.host := String.toList_inj.mp hhost.symm
    have hport : address.port.toNat.toUInt16 = address.port := by
      rw [Nat.toUInt16_eq, UInt16.ofNat_toNat]
    exact congrArg₂ HostPort.mk hname hport
  case inr =>
    have hcount := Endpoint.two_le_count_colon (Ip.whole?_eq_some_iff.mp hlong)
    have hnone := List.count_eq_zero.mpr hcolon
    have hdigits := List.count_eq_zero.mpr (Ip.colon_not_mem_toDigits address.port.toNat)
    rw [Endpoint.portText, List.count_append, List.count_cons_self, hnone, hdigits] at hcount
    omega

/-- A host without colons is read again with its port. -/
theorem ofText?_text_of_host (hhost : address.host ≠ "") (hcolon : ':' ∉ address.host.toList) :
    ofText? address.text = some address := by
  rw [ofText?]
  cases hread : Endpoint.ofText? address.text with
  | some endpoint => exact congrArg some (ofEndpoint_of_text hcolon hread)
  | none =>
      have hnumber := Ip.colon_not_mem_toDigits address.port.toNat
      have hcut := cutAtLastColon?_append address.host.toList hnumber
      have hport := Numeral.uint16?_repr address.port
      rw [Nat.toList_repr] at hport
      have hkept : (address.host.toList.isEmpty || address.host.toList.contains ':') = false := by
        rw [Bool.or_eq_false_iff, List.isEmpty_eq_false_iff, ← Bool.not_eq_true,
          List.contains_iff_mem]
        exact ⟨String.toList_eq_nil_iff.not.mpr hhost, hcolon⟩
      rw [toList_text, if_neg hcolon, Endpoint.portText]
      simp only [hcut, hkept, hport, String.ofList_toList, Option.bind_eq_bind, Option.bind_some,
        Option.pure_def, Bool.false_eq_true, if_false]

/-- Any endpoint is found again in the text of its name, and every host and port that is read from a
text is read again from its own text. -/
theorem survives_text :
    (∀ endpoint, ofText? (ofEndpoint endpoint).text = some (ofEndpoint endpoint)) ∧
      ∀ text address, ofText? text = some address → ofText? address.text = some address := by
  refine ⟨ofText?_text_ofEndpoint, fun text address hread => ?_⟩
  rw [ofText?] at hread
  split at hread
  case h_1 endpoint hendpoint =>
    obtain rfl := Option.some.inj hread
    exact ofText?_text_ofEndpoint endpoint
  case h_2 =>
    obtain ⟨⟨host, port⟩, hcut, hhost⟩ := Option.bind_eq_some_iff.mp hread
    obtain ⟨hkept, hport⟩ := Option.ite_none_left_eq_some.mp hhost
    obtain ⟨number, hnumber, hpair⟩ := Option.bind_eq_some_iff.mp hport
    obtain rfl := Option.some.inj hpair
    simp only [Bool.or_eq_true, not_or, List.isEmpty_iff, List.contains_iff_mem] at hkept
    refine ofText?_text_of_host ?_ ?_
    · rw [ne_eq, ← String.toList_eq_nil_iff, String.toList_ofList]
      exact hkept.1
    · rw [String.toList_ofList]
      exact hkept.2

/-- The sign keeps the text from being that of an endpoint, but the host is one of an endpoint when
it is written again. -/
theorem survives_text_signedPort :
    ofText? "1.2.3.4:+0080" = some ⟨"1.2.3.4", 80⟩ ∧
      ofText? (HostPort.text ⟨"1.2.3.4", 80⟩) = some ⟨"1.2.3.4", 80⟩ := by
  have hread : ofText? "1.2.3.4:+0080" = some ⟨"1.2.3.4", 80⟩ := rfl
  exact ⟨hread, survives_text.2 _ _ hread⟩

end HostPort

end Muster
