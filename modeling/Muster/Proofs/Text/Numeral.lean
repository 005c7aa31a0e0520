import Mathlib.Data.List.TakeWhile
import Muster.Text.Blank
import Muster.Text.Numeral

/-!
# Numerals that are written

A number in decimal is a text of digits, which no trimming touches.  Digits are read as the number
that they write, with its sign if there is one and if it fits the word that is asked for; so what
was written is read back.
-/

namespace Muster.Text

/-- A text keeps its ends where nothing is to be stripped off them. -/
theorem trimBoth_eq_self {strip : Char → Bool} {text : List Char}
    (hfirst : ∀ char ∈ text.head?, ¬ strip char) (hlast : ∀ char ∈ text.getLast?, ¬ strip char) :
    trimBoth strip text = text := by
  have hstart : text.dropWhile strip = text := by
    rw [List.dropWhile_eq_self_iff]
    intro hlength
    exact hfirst _ (List.head?_eq_getElem?.trans (List.getElem?_eq_getElem hlength))
  have hend : text.reverse.dropWhile strip = text.reverse := by
    rw [List.dropWhile_eq_self_iff]
    intro hlength
    apply hlast
    rw [List.getLast?_eq_head?_reverse]
    exact List.head?_eq_getElem?.trans (List.getElem?_eq_getElem hlength)
  rw [trimBoth, hstart, hend, List.reverse_reverse]

namespace Numeral

variable {char : Char} {digits text : List Char} {number value limit : Nat}

structure IsDigits (text : List Char) : Prop where
  ne_nil : text ≠ []
  isDigit : ∀ char ∈ text, char.isDigit

theorem isDigits_repr (number : Nat) : IsDigits number.repr.toList := by
  rw [Nat.repr_eq_ofList_toDigits, String.toList_ofList]
  exact ⟨Nat.toDigits_ne_nil, fun _ => Nat.isDigit_of_mem_toDigits (by decide) (Nat.le_refl 10)⟩

theorem isBlank_of_isDigit (hdigit : char.isDigit) : isBlank char = false := by
  obtain ⟨hlow, hhigh⟩ := Char.isDigit_iff_toNat.mp hdigit
  change 48 ≤ char.toNat at hlow
  change char.toNat ≤ 57 at hhigh
  simp only [isBlank, Bool.or_eq_false_iff, Bool.and_eq_false_iff, decide_eq_false_iff_not,
    beq_eq_false_iff_ne]
  omega

/-- Digits begin with a digit, and so with no sign. -/
theorem IsDigits.ne_cons (hdigits : IsDigits digits) {sign : Char} (hsign : sign.isDigit = false)
    (rest : List Char) : digits ≠ sign :: rest := by
  rintro rfl
  have hdigit := hdigits.isDigit sign List.mem_cons_self
  rw [hsign] at hdigit
  cases hdigit

theorem digit?_eq_some_iff :
    digit? char = some value ↔ char.isDigit ∧ value = char.toNat - '0'.toNat := by
  have hdigit : char.isDigit ↔ '0' ≤ char ∧ char ≤ '9' := Char.isDigit_iff_toNat
  rw [digit?, hdigit]
  split
  case isTrue hchar => simp [hchar, eq_comm]
  case isFalse hchar => simp [hchar]

theorem digitsFrom?_eq (value : Nat) (hdigits : ∀ char ∈ digits, char.isDigit) :
    digitsFrom? value digits = some (Nat.ofDigitChars 10 digits value) := by
  induction digits generalizing value with
  | nil => rfl
  | cons char rest ih =>
      rw [List.forall_mem_cons] at hdigits
      rw [digitsFrom?, digit?_eq_some_iff.mpr ⟨hdigits.1, rfl⟩, Option.bind_some, ih _ hdigits.2,
        Nat.ofDigitChars_cons]

theorem digitsFrom?_eq_some_iff : digitsFrom? value text = some number ↔
    (∀ char ∈ text, char.isDigit) ∧ number = Nat.ofDigitChars 10 text value := by
  constructor
  · intro hread
    have hdigits : ∀ char ∈ text, char.isDigit := by
      induction text generalizing value with
      | nil => exact List.forall_mem_nil _
      | cons char rest ih =>
          obtain ⟨digit, hdigit, hrest⟩ := Option.bind_eq_some_iff.mp hread
          exact List.forall_mem_cons.mpr ⟨(digit?_eq_some_iff.mp hdigit).1, ih hrest⟩
    rw [digitsFrom?_eq value hdigits, Option.some.injEq] at hread
    exact ⟨hdigits, hread.symm⟩
  · rintro ⟨hdigits, rfl⟩
    exact digitsFrom?_eq value hdigits

/-- Digits are read as the number that they write. -/
theorem digits?_eq_some_iff :
    digits? text = some number ↔ IsDigits text ∧ number = Nat.ofDigitChars 10 text 0 := by
  cases text with
  | nil =>
      simp only [digits?, reduceCtorEq, false_iff]
      exact fun hdigits => hdigits.1.ne_nil rfl
  | cons char rest =>
      rw [digits?, digitsFrom?_eq_some_iff]
      · exact ⟨fun hread => ⟨⟨List.cons_ne_nil _ _, hread.1⟩, hread.2⟩,
          fun hread => ⟨hread.1.isDigit, hread.2⟩⟩
      · exact List.cons_ne_nil _ _

theorem digits?_repr (number : Nat) : digits? number.repr.toList = some number := by
  rw [digits?_eq_some_iff, Nat.repr_eq_ofList_toDigits, String.toList_ofList,
    Nat.ofDigitChars_toDigits (by decide) (by decide)]
  exact ⟨by simpa using isDigits_repr number, rfl⟩

theorem IsDigits.trim_eq (hdigits : IsDigits digits) : trim digits = digits := by
  have hkept : ∀ char ∈ digits, ¬ isBlank char := fun char hchar =>
    Bool.eq_false_iff.mp (isBlank_of_isDigit (hdigits.isDigit char hchar))
  apply trimBoth_eq_self
  · exact fun char hhead => hkept char (List.mem_of_mem_head? hhead)
  · exact fun char hlast => hkept char (List.mem_of_mem_getLast? hlast)

/-- Digits are read as the number that they write, unless it is too large. -/
theorem natural?_eq_some_iff (hdigits : IsDigits digits) :
    natural? limit digits = some number ↔
      number = Nat.ofDigitChars 10 digits 0 ∧ number ≤ limit := by
  have hread : natural? limit digits = (digits? digits).filter (· ≤ limit) := by
    rw [natural?]
    exact fun rest => hdigits.ne_cons rfl rest
  rw [hread, Option.filter_eq_some_iff, digits?_eq_some_iff, decide_eq_true_eq]
  exact ⟨fun hnumber => ⟨hnumber.1.2, hnumber.2⟩, fun hnumber => ⟨⟨hdigits, hnumber.1⟩, hnumber.2⟩⟩

theorem natural?_repr (hlimit : number ≤ limit) :
    natural? limit number.repr.toList = some number :=
  (natural?_eq_some_iff (isDigits_repr number)).mpr
    ⟨(digits?_eq_some_iff.mp (digits?_repr number)).2, hlimit⟩

/-- Digits are read as a word of 32 bits when it is the number that they write. -/
theorem uint32?_eq_some_iff (hdigits : IsDigits digits) {word : UInt32} :
    uint32? digits = some word ↔ word.toNat = Nat.ofDigitChars 10 digits 0 := by
  rw [uint32?, Option.map_eq_some_iff]
  constructor
  · rintro ⟨value, hvalue, rfl⟩
    obtain ⟨rfl, hfits⟩ := (natural?_eq_some_iff hdigits).mp hvalue
    exact UInt32.toNat_ofNat_of_lt' (Nat.lt_succ_of_le hfits)
  · intro hword
    refine ⟨word.toNat, ?_, UInt32.ofNat_toNat⟩
    exact (natural?_eq_some_iff hdigits).mpr ⟨hword, Nat.le_of_lt_succ word.toNat_lt⟩

theorem uint32?_repr (word : UInt32) : uint32? word.toNat.repr.toList = some word := by
  rw [uint32?, natural?_repr (Nat.le_of_lt_succ word.toNat_lt)]
  exact congrArg some UInt32.ofNat_toNat

theorem uint16?_repr (word : UInt16) : uint16? word.toNat.repr.toList = some word := by
  rw [uint16?, natural?_repr (Nat.le_of_lt_succ word.toNat_lt)]
  exact congrArg some UInt16.ofNat_toNat

/-! ## Signed numerals -/

def signed (isNegative : Bool) (digits : List Char) : List Char :=
  if isNegative then '-' :: digits else digits

def signedValue (isNegative : Bool) (digits : List Char) : Int :=
  if isNegative then -(Nat.ofDigitChars 10 digits 0 : Int) else Nat.ofDigitChars 10 digits 0

/-- A sign in front of the digits is read, and values out of range are refused. -/
theorem integer?_signed {bound : Nat} (hbound : 0 < bound) (hdigits : IsDigits digits)
    (isNegative : Bool) {value : Int} :
    integer? bound (signed isNegative digits) = some value ↔
      value = signedValue isNegative digits ∧ -bound ≤ value ∧ value < bound := by
  cases isNegative with
  | true =>
      have hread : integer? bound (signed true digits) =
          ((digits? digits).filter (· ≤ bound)).map fun value : Nat => -(value : Int) := by
        change Option.map _ _ = _
        cases (digits? digits).filter (· ≤ bound) <;> rfl
      rw [hread, Option.map_eq_some_iff]
      simp only [Option.filter_eq_some_iff, digits?_eq_some_iff, decide_eq_true_eq, signedValue,
        if_true]
      constructor
      · rintro ⟨number, ⟨⟨-, rfl⟩, hfits⟩, rfl⟩
        exact ⟨rfl, by omega, by omega⟩
      · rintro ⟨rfl, hlow, -⟩
        exact ⟨_, ⟨⟨hdigits, rfl⟩, by omega⟩, rfl⟩
  | false =>
      have hread : integer? bound (signed false digits) =
          (natural? (bound - 1) digits).map Int.ofNat := by
        rw [signed, if_neg Bool.false_ne_true, integer?]
        · cases natural? (bound - 1) digits <;> rfl
        · exact fun rest => hdigits.ne_cons rfl rest
      rw [hread, Option.map_eq_some_iff]
      simp only [natural?_eq_some_iff hdigits, signedValue, Bool.false_eq_true, if_false]
      constructor
      · rintro ⟨number, ⟨rfl, hfits⟩, rfl⟩
        exact ⟨rfl, by rw [Int.ofNat_eq_natCast]; omega, by rw [Int.ofNat_eq_natCast]; omega⟩
      · rintro ⟨rfl, -, hhigh⟩
        exact ⟨_, ⟨rfl, by omega⟩, rfl⟩

/-- A signed numeral is read as a word of 32 bits when it is the number that they write. -/
theorem int32?_eq_some_iff (hdigits : IsDigits digits) (isNegative : Bool) {word : Int32} :
    int32? (signed isNegative digits) = some word ↔
      word.toInt = signedValue isNegative digits := by
  rw [int32?, Option.map_eq_some_iff]
  constructor
  · rintro ⟨value, hvalue, rfl⟩
    obtain ⟨rfl, hlow, hhigh⟩ := (integer?_signed (by decide) hdigits isNegative).mp hvalue
    exact Int32.toInt_ofInt_of_le hlow hhigh
  · intro hword
    refine ⟨word.toInt, ?_, Int32.ofInt_toInt word⟩
    exact (integer?_signed (by decide) hdigits isNegative).mpr
      ⟨hword, word.le_toInt, word.toInt_lt⟩

/-- A number is written as the digits of its size, behind a minus sign if it is negative. -/
theorem toList_repr (value : Int) :
    value.repr.toList = signed (decide (value < 0)) value.natAbs.repr.toList := by
  cases value with
  | ofNat number => rfl
  | negSucc number =>
      have hnegative : decide (Int.negSucc number < 0) = true :=
        decide_eq_true (Int.negSucc_lt_zero number)
      rw [hnegative]
      exact String.toList_append

theorem signedValue_repr (value : Int) :
    signedValue (decide (value < 0)) value.natAbs.repr.toList = value := by
  have hsize := (digits?_eq_some_iff.mp (digits?_repr value.natAbs)).2
  rw [signedValue, ← hsize]
  split
  case isTrue hnegative => have := of_decide_eq_true hnegative; omega
  case isFalse hnegative => have := of_decide_eq_false (Bool.eq_false_iff.mpr hnegative); omega

end Numeral

end Muster.Text
