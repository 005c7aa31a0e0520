import Mathlib.Algebra.GroupWithZero.Nat
import Mathlib.Data.List.Induction
import Muster.Net.EndpointText
import Muster.Proofs.Text.Spans

/-!
# Numbers in addresses

The digits of a number in a base up to sixteen are read back as this number, whatever follows them
that is no digit.  A decimal number without needless zeros is written in only one way, so its text
can be told from its value.
-/

namespace Muster.Ip

open Text

variable {base value limit : Nat} {maxDigits : Option Nat} {text rest digits : List Char}
  {char : Char}

/-! ## Digits -/

theorem hexDigit?_digitChar : ∀ digit < 16, hexDigit? digit.digitChar = some digit := by
  decide

theorem isDigit_digitChar {digit : Nat} (hbase : base ≤ 16) (hdigit : digit < base) :
    isDigit base digit.digitChar := by
  rw [isDigit, hexDigit?_digitChar digit (Nat.lt_of_lt_of_le hdigit hbase), Option.any_some]
  exact decide_eq_true hdigit

/-- A digit of a base is one of every greater base. -/
theorem isDigit_mono {other : Nat} (hbase : base ≤ other) (hchar : isDigit base char) :
    isDigit other char := by
  rw [isDigit, Option.any_eq_true] at hchar ⊢
  obtain ⟨digit, hdigit, hsmall⟩ := hchar
  exact ⟨digit, hdigit, decide_eq_true (Nat.lt_of_lt_of_le (of_decide_eq_true hsmall) hbase)⟩

theorem not_isDigit_head (first : Char) (hfirst : isDigit base first = false) (rest : List Char) :
    ∀ char ∈ (first :: rest).head?, ¬ isDigit base char := by
  intro char hchar
  obtain rfl := Option.some.inj hchar
  exact Bool.eq_false_iff.mp hfirst

theorem isDigit_of_mem_toDigits (hlow : 1 < base) (hhigh : base ≤ 16) (value : Nat) :
    ∀ char ∈ Nat.toDigits base value, isDigit base char := by
  induction value using Nat.strongRecOn with
  | ind value ih =>
      rw [Nat.toDigits_eq_if hlow]
      split
      case isTrue hsmall =>
        rw [List.forall_mem_singleton]
        exact isDigit_digitChar hhigh hsmall
      case isFalse hlarge =>
        have hless : value / base < value := Nat.div_lt_self (by omega) hlow
        rw [List.forall_mem_append, List.forall_mem_singleton]
        exact ⟨ih _ hless, isDigit_digitChar hhigh (Nat.mod_lt _ (by omega))⟩

theorem valueFrom_append (base value : Nat) (digits others : List Char) :
    valueFrom base value (digits ++ others) =
      valueFrom base (valueFrom base value digits) others := by
  induction digits generalizing value with
  | nil => rfl
  | cons char rest ih => exact ih _

theorem valueFrom_toDigits (hlow : 1 < base) (hhigh : base ≤ 16) (value : Nat) :
    valueFrom base 0 (Nat.toDigits base value) = value := by
  have hdigit : ∀ before digit, digit < base →
      valueFrom base before [digit.digitChar] = base * before + digit := by
    intro before digit hsmall
    rw [valueFrom, hexDigit?_digitChar digit (by omega)]
    rfl
  induction value using Nat.strongRecOn with
  | ind value ih =>
      rw [Nat.toDigits_eq_if hlow]
      split
      case isTrue hsmall => rw [hdigit _ _ hsmall, Nat.mul_zero, Nat.zero_add]
      case isFalse hlarge =>
        have hless : value / base < value := Nat.div_lt_self (by omega) hlow
        rw [valueFrom_append, ih _ hless, hdigit _ _ (Nat.mod_lt _ (by omega)), Nat.div_add_mod]

/-! ## Numbers -/

/-- A number is read back when no digit follows it. -/
theorem number?_toDigits (hlow : 1 < base) (hhigh : base ≤ 16) (hlimit : value ≤ limit)
    (hlength : ∀ most ∈ maxDigits, value < base ^ most ∧ 0 < most)
    (hrest : ∀ char ∈ rest.head?, ¬ isDigit base char) :
    number? base maxDigits limit (Nat.toDigits base value ++ rest) = some (value, rest) := by
  have hdigits := isDigit_of_mem_toDigits hlow hhigh value
  have hnonempty : (Nat.toDigits base value).isEmpty = false :=
    List.isEmpty_eq_false_iff.mpr Nat.toDigits_ne_nil
  have hshort : maxDigits.any (· < (Nat.toDigits base value).length) = false := by
    rw [Option.any_eq_false]
    intro most hmost
    obtain ⟨hvalue, hpositive⟩ := hlength most hmost
    have hmany := (Nat.length_toDigits_le_iff hlow hpositive).mpr hvalue
    simpa using hmany
  rw [number?, takeWhile_span hdigits hrest, dropWhile_span hdigits hrest]
  simp only [valueFrom_toDigits hlow hhigh, hnonempty, hshort, Bool.or_self, Bool.false_or,
    decide_eq_true_eq]
  rw [if_neg (Nat.not_lt.mpr hlimit)]

theorem number?_eq_none (hhead : ∀ char ∈ text.head?, ¬ isDigit base char) :
    number? base maxDigits limit text = none := by
  have hnone : ([] ++ text).takeWhile (isDigit base) = [] :=
    takeWhile_span (List.forall_mem_nil _) hhead
  rw [List.nil_append] at hnone
  rw [number?, hnone]
  rfl

/-- What is read as a number is a span of digits. -/
theorem exists_digits_of_number? (hread : number? base maxDigits limit text = some (value, rest)) :
    ∃ digits, digits ≠ [] ∧ (∀ char ∈ digits, isDigit base char) ∧ text = digits ++ rest ∧
      value = valueFrom base 0 digits ∧ value ≤ limit ∧
      ∀ char ∈ rest.head?, ¬ isDigit base char := by
  rw [number?, Option.ite_none_left_eq_some] at hread
  obtain ⟨hnot, hpair⟩ := hread
  obtain ⟨rfl, rfl⟩ := Prod.mk.inj (Option.some.inj hpair)
  simp only [Bool.or_eq_true, not_or, decide_eq_true_eq, Nat.not_lt] at hnot
  refine ⟨_, ?_, fun char hchar => List.mem_takeWhile_imp hchar,
    List.takeWhile_append_dropWhile.symm, rfl, hnot.2, head?_dropWhile _ _⟩
  exact fun hnil => hnot.1.1 (List.isEmpty_iff.mpr hnil)

/-! ## Bytes in decimal -/

theorem head?_toDigits_ne_zero (hlow : 1 < base) (hhigh : base ≤ 16) (hvalue : 0 < value) :
    (Nat.toDigits base value).head? ≠ some '0' := by
  have hdigit : ∀ digit < 16, 0 < digit → digit.digitChar ≠ '0' := by decide
  induction value using Nat.strongRecOn with
  | ind value ih =>
      rw [Nat.toDigits_eq_if hlow]
      split
      case isTrue hsmall =>
        intro hzero
        exact hdigit value (by omega) hvalue (Option.some.inj hzero)
      case isFalse hlarge =>
        rw [List.head?_append, Option.or_of_isSome (List.isSome_head?.mpr Nat.toDigits_ne_nil)]
        exact ih _ (Nat.div_lt_self hvalue hlow) (Nat.div_pos (Nat.le_of_not_lt hlarge) (by omega))

theorem exists_digitChar_of_isDigit (hchar : isDigit 10 char) :
    ∃ digit < 10, char = digit.digitChar := by
  have hdigit : ∀ digit < 10, Char.ofNat ('0'.toNat + digit) = digit.digitChar := by decide
  rw [isDigit, Option.any_eq_true] at hchar
  obtain ⟨digit, hread, hsmall⟩ := hchar
  have hsmall := of_decide_eq_true hsmall
  rw [hexDigit?] at hread
  split at hread
  case isTrue hrange =>
    obtain rfl := Option.some.inj hread
    have hlow : '0'.toNat ≤ char.toNat := hrange.1
    refine ⟨_, hsmall, ?_⟩
    rw [← hdigit _ hsmall, Nat.add_sub_cancel' hlow, Char.ofNat_toNat]
  case isFalse hrange =>
    -- The letters have values from ten on.
    split at hread
    · obtain rfl := Option.some.inj hread
      omega
    · split at hread
      · obtain rfl := Option.some.inj hread
        omega
      · cases hread

/-- Decimal digits without a needless zero in front are those of their value. -/
theorem toDigits_valueFrom (hne : digits ≠ []) (hdigits : ∀ char ∈ digits, isDigit 10 char)
    (hzero : 1 < digits.length → digits.head? ≠ some '0') :
    Nat.toDigits 10 (valueFrom 10 0 digits) = digits := by
  induction digits using List.reverseRecOn with
  | nil => exact absurd rfl hne
  | append_singleton front last ih =>
      rw [List.forall_mem_append, List.forall_mem_singleton] at hdigits
      obtain ⟨digit, hdigit, rfl⟩ := exists_digitChar_of_isDigit hdigits.2
      have hlast : Nat.toDigits 10 digit = [digit.digitChar] := Nat.toDigits_of_lt_base hdigit
      have hvalue : valueFrom 10 0 (front ++ [digit.digitChar]) =
          10 * valueFrom 10 0 front + digit := by
        rw [valueFrom_append, valueFrom, hexDigit?_digitChar digit (by omega)]
        rfl
      rw [hvalue]
      by_cases hfront : front = []
      · subst hfront
        rw [valueFrom, Nat.mul_zero, Nat.zero_add, hlast, List.nil_append]
      · have hhead : front.head? ≠ some '0' := by
          have hmore : 0 < front.length := List.length_pos_iff.mpr hfront
          have hboth := hzero (by rw [List.length_append, List.length_singleton]; omega)
          rwa [List.head?_append, Option.or_of_isSome (List.isSome_head?.mpr hfront)] at hboth
        have hrest := ih hfront hdigits.1 fun _ => hhead
        have hpositive : 0 < valueFrom 10 0 front := by
          refine Nat.pos_of_ne_zero fun hnone => ?_
          rw [hnone] at hrest
          exact hhead (hrest ▸ rfl)
        rw [← Nat.toDigits_append_toDigits (by decide) hpositive hdigit, hrest, hlast]

/-- A byte is written without a zero in front. -/
theorem byte?_eq_some_iff : byte? text = some (value, rest) ↔
    number? 10 (some 3) 255 text = some (value, rest) ∧
      ∀ second others, text = '0' :: second :: others → ¬ isDigit 10 second := by
  unfold byte?
  split
  case h_1 second others =>
    rw [Option.ite_none_left_eq_some]
    constructor
    · rintro ⟨hsecond, hread⟩
      refine ⟨hread, fun other more htext => ?_⟩
      obtain ⟨rfl, -⟩ := List.cons.inj (List.cons.inj htext).2
      exact hsecond
    · rintro ⟨hread, hzero⟩
      exact ⟨hzero second others rfl, hread⟩
  case h_2 hnot =>
    exact ⟨fun hread => ⟨hread, fun second others htext => absurd htext (hnot second others)⟩,
      And.left⟩

theorem byte?_eq_none (hhead : ∀ char ∈ text.head?, ¬ isDigit 10 char) : byte? text = none := by
  rw [Option.eq_none_iff_forall_ne_some]
  rintro ⟨value, rest⟩ hread
  have hnumber := (byte?_eq_some_iff.mp hread).1
  rw [number?_eq_none hhead] at hnumber
  cases hnumber

theorem byte?_toDigits (hvalue : value ≤ 255) (hrest : ∀ char ∈ rest.head?, ¬ isDigit 10 char) :
    byte? (Nat.toDigits 10 value ++ rest) = some (value, rest) := by
  refine byte?_eq_some_iff.mpr ⟨?_, ?_⟩
  · refine number?_toDigits (by decide) (by decide) hvalue ?_ hrest
    rintro most hmost
    obtain rfl := Option.some.inj hmost
    omega
  · intro second others htext
    rcases Nat.eq_zero_or_pos value with rfl | hpositive
    · obtain ⟨-, rfl⟩ := List.cons.inj htext
      exact hrest second rfl
    · have hfirst : (Nat.toDigits 10 value).head? ≠ some '0' :=
        head?_toDigits_ne_zero (by decide) (by decide) hpositive
      have hhead := congrArg List.head? htext
      rw [List.head?_append, Option.or_of_isSome (List.isSome_head?.mpr Nat.toDigits_ne_nil)]
        at hhead
      exact absurd hhead hfirst

/-- A byte is read from no text but its own. -/
theorem text_of_byte? (hread : byte? text = some (value, rest)) :
    text = Nat.toDigits 10 value ++ rest ∧ value ≤ 255 := by
  obtain ⟨hnumber, hzero⟩ := byte?_eq_some_iff.mp hread
  obtain ⟨digits, hne, hdigits, htext, rfl, hlimit, -⟩ := exists_digits_of_number? hnumber
  refine ⟨?_, hlimit⟩
  rw [toDigits_valueFrom hne hdigits ?_, htext]
  intro hlong hhead
  obtain ⟨first, second, others, rfl⟩ :
      ∃ first second others, digits = first :: second :: others := by
    match digits, hlong with
    | first :: second :: others, _ => exact ⟨first, second, others, rfl⟩
  obtain rfl := Option.some.inj hhead
  refine hzero second (others ++ rest) htext (hdigits second ?_)
  exact List.mem_cons_of_mem _ List.mem_cons_self

end Muster.Ip
