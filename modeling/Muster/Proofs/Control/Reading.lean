import Mathlib.Algebra.GroupWithZero.Nat
import Muster.Control.Decoding
import Muster.Control.Encoding
import Muster.Proofs.Text.Utf8

/-!
# Exact readers

A reader is exact for a way of writing values when it takes the bytes of a value from the front of
a byte string, whatever follows, and takes nothing else.  Exactness passes from the parts of a
format to the whole, and an exact reader leaves no value two spellings and no spelling that begins
another one.
-/

namespace Muster.Decoding

variable {α β : Type} {bytes rest : List UInt8}

/-- The reader takes from a byte string the bytes of a value that can be written, and these
only. -/
def IsExact (reader : Reader α) (write : α → List UInt8) (CanWrite : α → Prop) : Prop :=
  ∀ bytes value rest,
    reader bytes = .ok (value, rest) ↔ CanWrite value ∧ bytes = write value ++ rest

/-! ## What exactness gives -/

namespace IsExact

variable {reader : Reader α} {write : α → List UInt8} {CanWrite : α → Prop}

theorem read_write (hexact : IsExact reader write CanWrite) {value : α} (hvalue : CanWrite value)
    (rest : List UInt8) : reader (write value ++ rest) = .ok (value, rest) :=
  (hexact _ _ _).mpr ⟨hvalue, rfl⟩

theorem isPrefix_iff (hexact : IsExact reader write CanWrite) {value : α} :
    (∃ rest, reader bytes = .ok (value, rest)) ↔ CanWrite value ∧ write value <+: bytes := by
  constructor
  · rintro ⟨rest, hread⟩
    obtain ⟨hvalue, rfl⟩ := (hexact _ _ _).mp hread
    exact ⟨hvalue, List.prefix_append _ _⟩
  · rintro ⟨hvalue, rest, rfl⟩
    exact ⟨rest, hexact.read_write hvalue rest⟩

/-- No value begins with another one. -/
theorem eq_of_prefix (hexact : IsExact reader write CanWrite) {left right : α}
    (hleft : CanWrite left) (hright : CanWrite right) (hstarts : write left <+: write right) :
    left = right := by
  obtain ⟨rest, hrest⟩ := hstarts
  have hreadLeft := hexact.read_write hleft rest
  have hreadRight := hexact.read_write hright []
  rw [List.append_nil, ← hrest, hreadLeft] at hreadRight
  exact (Prod.ext_iff.mp (Except.ok.inj hreadRight)).1

/-- The bytes that are taken for a value are always the same. -/
theorem front_unique (hexact : IsExact reader write CanWrite) {value : α}
    {front other rest others : List UInt8}
    (hfront : reader (front ++ rest) = .ok (value, rest))
    (hother : reader (other ++ others) = .ok (value, others)) : front = other := by
  have hwrite : front = write value := List.append_cancel_right ((hexact _ _ _).mp hfront).2
  have hwriteOther : other = write value := List.append_cancel_right ((hexact _ _ _).mp hother).2
  rw [hwrite, hwriteOther]

end IsExact

/-! ## Readers in sequence -/

/-- Reading one thing and then another splits the bytes in two places. -/
theorem bind_eq_ok_iff {first : Reader α} {next : α → Reader β} {value : β} :
    (first >>= next) bytes = .ok (value, rest) ↔
      ∃ part middle, first bytes = .ok (part, middle) ∧ next part middle = .ok (value, rest) := by
  change andThen first next bytes = _ ↔ _
  rw [andThen]
  cases first bytes with
  | error error => simp
  | ok result =>
      constructor
      · intro hnext
        exact ⟨result.1, result.2, rfl, hnext⟩
      · rintro ⟨part, middle, hfirst, hnext⟩
        rw [Except.ok.inj hfirst]
        exact hnext

theorem pure_eq_ok_iff {result value : α} :
    (pure result : Reader α) bytes = .ok (value, rest) ↔ result = value ∧ bytes = rest := by
  change done result bytes = _ ↔ _
  rw [done, Except.ok.injEq, Prod.mk.injEq]

/-- A value is read through another one from which it is made and to which it can be undone. -/
theorem IsExact.map {reader : Reader α} {write : α → List UInt8} {CanWrite : α → Prop}
    {CanWriteResult : β → Prop} {make : α → β} {undo : β → α}
    (hexact : IsExact reader write CanWrite) (hmake : ∀ result, make (undo result) = result)
    (hundo : ∀ value, CanWrite value → undo (make value) = value)
    (hcan : ∀ result, CanWrite (undo result) ↔ CanWriteResult result) :
    IsExact (reader >>= fun value => pure (make value)) (fun result => write (undo result))
      CanWriteResult := by
  intro bytes result rest
  simp only [bind_eq_ok_iff, pure_eq_ok_iff, hexact _ _ _]
  constructor
  · rintro ⟨value, _, ⟨hvalue, rfl⟩, rfl, rfl⟩
    rw [← hcan, hundo value hvalue]
    exact ⟨hvalue, rfl⟩
  · rintro ⟨hresult, rfl⟩
    exact ⟨_, rest, ⟨(hcan result).mpr hresult, rfl⟩, hmake result, rfl⟩

theorem refuse_ne_ok {error : DecodeError} {value : α} :
    (refuse error : Reader α) bytes ≠ .ok (value, rest) := by
  rw [refuse]
  exact nofun

theorem unknownChoice_ne_ok {found count : Nat} {value : α} :
    (unknownChoice found count : Reader α) bytes ≠ .ok (value, rest) :=
  refuse_ne_ok

theorem take_eq_ok_iff {error : DecodeError} {count : Nat} {front : List UInt8} :
    take error count bytes = .ok (front, rest) ↔
      front.length = count ∧ bytes = front ++ rest := by
  rw [take]
  split
  case isTrue hshort =>
    simp only [reduceCtorEq, false_iff]
    rintro ⟨rfl, rfl⟩
    rw [List.length_append] at hshort
    omega
  case isFalse hlong =>
    simp only [Except.ok.injEq, Prod.mk.injEq]
    constructor
    · rintro ⟨rfl, rfl⟩
      exact ⟨List.length_take_of_le (Nat.le_of_not_lt hlong), (List.take_append_drop _ _).symm⟩
    · rintro ⟨rfl, rfl⟩
      exact ⟨List.take_left, List.drop_left⟩

/-! ## Numbers -/

@[simp]
theorem length_littleEndian (width value : Nat) :
    (Encoding.littleEndian width value).length = width := by
  induction width generalizing value with
  | zero => rfl
  | succ width ih => rw [Encoding.littleEndian, List.length_cons, ih]

theorem valueOf_littleEndian (width value : Nat) :
    valueOf (Encoding.littleEndian width value) = value % 256 ^ width := by
  induction width generalizing value with
  | zero => simp [Encoding.littleEndian, valueOf, Nat.mod_one]
  | succ width ih =>
      rw [Encoding.littleEndian, valueOf, ih, Nat.toUInt8, UInt8.toNat_ofNat',
        Nat.pow_succ' (m := 256)]
      exact (Nat.mod_mul (x := value)).symm

theorem littleEndian_valueOf (bytes : List UInt8) :
    Encoding.littleEndian bytes.length (valueOf bytes) = bytes := by
  induction bytes with
  | nil => rfl
  | cons byte rest ih =>
      have hbyte := byte.toNat_lt
      have hfirst : (byte.toNat + 256 * valueOf rest).toUInt8 = byte := by
        rw [← UInt8.toNat_inj, Nat.toUInt8, UInt8.toNat_ofNat']
        omega
      have hothers : (byte.toNat + 256 * valueOf rest) / 256 = valueOf rest := by
        omega
      rw [List.length_cons, Encoding.littleEndian, valueOf, hfirst, hothers, ih]

theorem valueOf_lt (bytes : List UInt8) : valueOf bytes < 256 ^ bytes.length := by
  induction bytes with
  | nil => simp [valueOf]
  | cons byte rest ih =>
      have hbyte := byte.toNat_lt
      rw [valueOf, List.length_cons, Nat.pow_succ']
      omega

theorem isExact_number (width : Nat) :
    IsExact (number width) (Encoding.littleEndian width) (· < 256 ^ width) := by
  intro bytes value rest
  simp only [number, bind_eq_ok_iff, pure_eq_ok_iff, take_eq_ok_iff]
  constructor
  · rintro ⟨front, _, ⟨rfl, rfl⟩, rfl, rfl⟩
    rw [littleEndian_valueOf]
    exact ⟨valueOf_lt front, rfl⟩
  · rintro ⟨hvalue, rfl⟩
    refine ⟨_, rest, ⟨length_littleEndian width value, rfl⟩, ?_, rfl⟩
    rw [valueOf_littleEndian, Nat.mod_eq_of_lt hvalue]

theorem isExact_word16 : IsExact word16 Encoding.word16 fun _ => True :=
  (isExact_number 2).map (fun _ => UInt16.ofNat_toNat) (fun _ => UInt16.toNat_ofNat_of_lt')
    fun value => iff_true_intro value.toNat_lt

theorem isExact_word32 : IsExact word32 Encoding.word32 fun _ => True :=
  (isExact_number 4).map (fun _ => UInt32.ofNat_toNat) (fun _ => UInt32.toNat_ofNat_of_lt')
    fun value => iff_true_intro value.toNat_lt

theorem isExact_word64 : IsExact word64 Encoding.word64 fun _ => True :=
  (isExact_number 8).map (fun _ => UInt64.ofNat_toNat) (fun _ => UInt64.toNat_ofNat_of_lt')
    fun value => iff_true_intro value.toNat_lt

theorem isExact_byte : IsExact byte (fun value => [value]) fun _ => True := by
  have hwrite : (fun value : UInt8 => [value]) =
      fun value => Encoding.littleEndian 1 value.toNat := by
    funext value
    rw [Encoding.littleEndian, Nat.toUInt8, UInt8.ofNat_toNat, Encoding.littleEndian]
  rw [hwrite]
  exact (isExact_number 1).map (fun _ => UInt8.ofNat_toNat)
    (fun _ => UInt8.toNat_ofNat_of_lt') fun value => iff_true_intro value.toNat_lt

theorem isExact_bool : IsExact bool Encoding.bool fun _ => True := by
  intro bytes value rest
  simp only [bool, bind_eq_ok_iff, isExact_byte _ _ _, Encoding.bool, true_and]
  constructor
  · rintro ⟨byte, _, rfl, hvalue⟩
    split at hvalue
    case isTrue hzero =>
      obtain ⟨rfl, rfl⟩ := pure_eq_ok_iff.mp hvalue
      rw [hzero]
      rfl
    case isFalse hzero =>
      split at hvalue
      case isTrue hone =>
        obtain ⟨rfl, rfl⟩ := pure_eq_ok_iff.mp hvalue
        rw [hone]
        rfl
      case isFalse hone => exact absurd hvalue refuse_ne_ok
  · rintro rfl
    cases value with
    | false => exact ⟨0, rest, rfl, rfl⟩
    | true => exact ⟨1, rest, rfl, rfl⟩

theorem isExact_group : IsExact group Encoding.group fun _ => True := by
  intro bytes value rest
  simp only [group, bind_eq_ok_iff, pure_eq_ok_iff, isExact_byte _ _ _, Encoding.group, true_and,
    List.cons_append, List.nil_append]
  constructor
  · rintro ⟨high, _, rfl, low, _, rfl, rfl, rfl⟩
    have hhigh := high.toNat_lt
    have hlow := low.toNat_lt
    have hvalue : (high.toNat * 256 + low.toNat).toUInt16.toNat = high.toNat * 256 + low.toNat :=
      UInt16.toNat_ofNat_of_lt' (by rw [UInt16.size]; omega)
    simp only [hvalue, List.cons.injEq, ← UInt8.toNat_inj, Nat.toUInt8, UInt8.toNat_ofNat',
      and_true]
    omega
  · rintro rfl
    have hvalue := value.toNat_lt
    refine ⟨_, _, rfl, _, _, rfl, ?_, rfl⟩
    rw [← UInt16.toNat_inj]
    simp only [Nat.toUInt8, UInt8.toNat_ofNat', Nat.toUInt16, UInt16.toNat_ofNat']
    omega

/-- A choice is read by its number, and the rest as the chosen branch reads it. -/
theorem choice_eq_ok_iff {branch : Nat → Reader α} {value : α} :
    (number 4 >>= branch) bytes = .ok (value, rest) ↔
      ∃ found middle, found < 2 ^ 32 ∧ bytes = Encoding.choice found ++ middle ∧
        branch found middle = .ok (value, rest) := by
  have hbound : 256 ^ 4 = 2 ^ 32 := rfl
  simp only [bind_eq_ok_iff, isExact_number _ _ _ _, hbound, Encoding.choice, and_assoc]

/-! ## Lists and texts -/

def IsCountable (length : Nat) : Prop :=
  length < 2 ^ 64

instance (length : Nat) : Decidable (IsCountable length) :=
  inferInstanceAs (Decidable (length < 2 ^ 64))

/-- Elements are read one by one, each from where the one before has ended. -/
theorem elements_eq_ok_iff {element : Reader α} {write : α → List UInt8} {CanWrite : α → Prop}
    (hexact : IsExact element write CanWrite) {count : Nat} {values : List α} :
    elements element count bytes = .ok (values, rest) ↔
      values.length = count ∧ (∀ value ∈ values, CanWrite value) ∧
        bytes = values.flatMap write ++ rest := by
  induction count generalizing bytes values rest with
  | zero =>
      simp only [elements, pure_eq_ok_iff, List.length_eq_zero_iff]
      constructor
      · rintro ⟨rfl, rfl⟩
        exact ⟨rfl, List.forall_mem_nil _, rfl⟩
      · rintro ⟨rfl, -, rfl⟩
        exact ⟨rfl, rfl⟩
  | succ count ih =>
      simp only [elements, bind_eq_ok_iff, pure_eq_ok_iff, hexact _ _ _, ih]
      constructor
      · rintro ⟨value, _, ⟨hvalue, rfl⟩, others, _, ⟨rfl, hothers, rfl⟩, rfl, rfl⟩
        refine ⟨rfl, List.forall_mem_cons.mpr ⟨hvalue, hothers⟩, ?_⟩
        rw [List.flatMap_cons, List.append_assoc]
      · rintro ⟨hlength, hvalues, rfl⟩
        obtain ⟨value, others, rfl⟩ := List.exists_cons_of_length_eq_add_one hlength
        obtain ⟨hvalue, hothers⟩ := List.forall_mem_cons.mp hvalues
        rw [List.flatMap_cons, List.append_assoc]
        exact ⟨value, _, ⟨hvalue, rfl⟩, others, rest,
          ⟨Nat.succ.inj hlength, hothers, rfl⟩, rfl, rfl⟩

/-- A list can be told from its bytes when its elements can. -/
theorem IsExact.list {element : Reader α} {write : α → List UInt8} {CanWrite : α → Prop}
    (hexact : IsExact element write CanWrite) :
    IsExact (list element) (Encoding.list write) fun values =>
      IsCountable values.length ∧ ∀ value ∈ values, CanWrite value := by
  intro bytes values rest
  simp only [Decoding.list, bind_eq_ok_iff, isExact_number _ _ _ _, elements_eq_ok_iff hexact,
    Encoding.list, List.append_assoc]
  constructor
  · rintro ⟨_, _, ⟨hlength, rfl⟩, rfl, hvalues, rfl⟩
    exact ⟨⟨hlength, hvalues⟩, rfl⟩
  · rintro ⟨⟨hlength, hvalues⟩, rfl⟩
    exact ⟨_, _, ⟨hlength, rfl⟩, rfl, hvalues, rfl⟩

theorem isExact_text : IsExact text Encoding.text fun value =>
    IsCountable (Text.Utf8.encode value.toList).length := by
  intro bytes value rest
  simp only [text, bind_eq_ok_iff, isExact_number _ _ _ _, take_eq_ok_iff, Encoding.text,
    List.append_assoc]
  constructor
  · rintro ⟨_, _, ⟨hlength, rfl⟩, front, _, ⟨rfl, rfl⟩, hvalue⟩
    cases hchars : Text.Utf8.decode front with
    | ok chars =>
        rw [hchars] at hvalue
        obtain ⟨rfl, rfl⟩ := pure_eq_ok_iff.mp hvalue
        rw [String.toList_ofList, ← Text.Utf8.decode_eq_ok_iff.mp hchars]
        exact ⟨hlength, rfl⟩
    | error fault =>
        rw [hchars] at hvalue
        exact absurd hvalue refuse_ne_ok
  · rintro ⟨hlength, rfl⟩
    refine ⟨_, _, ⟨hlength, rfl⟩, _, _, ⟨rfl, rfl⟩, ?_⟩
    rw [Text.Utf8.decode_eq_ok_iff.mpr rfl]
    exact pure_eq_ok_iff.mpr ⟨String.ofList_toList, rfl⟩

end Muster.Decoding
