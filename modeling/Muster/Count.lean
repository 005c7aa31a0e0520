/-!
# Counts

Numbers of clients, slots and players are words of 32 bits.  Their difference stops at zero.  Their
sum stops at the largest word, or there is none beyond it, as the place asks for.
-/

namespace Muster

/-- A number of clients, slots or players. -/
abbrev Count := UInt32

namespace Count

def max : Nat := 0xFFFFFFFF

/-- The difference of two counts, or zero where it would be negative. -/
def minus (left right : Count) : Count :=
  if right ≤ left then left - right else 0

/-- The sum of two counts, or the largest count where it would be larger. -/
def plus (left right : Count) : Count :=
  if left.toNat + right.toNat ≤ max then left + right else 0xFFFFFFFF

/-- The sum of two counts, unless it is larger than every count. -/
def sum? (left right : Count) : Option Count :=
  if left.toNat + right.toNat ≤ max then some (left + right) else none

/-- The count of so many things, or the largest count where there are more. -/
def ofNat (number : Nat) : Count :=
  if number ≤ max then number.toUInt32 else 0xFFFFFFFF

theorem toNat_le_max (count : Count) : count.toNat ≤ max :=
  Nat.le_of_lt_succ count.toNat_lt

@[simp]
theorem toNat_minus (left right : Count) :
    (minus left right).toNat = left.toNat - right.toNat := by
  unfold minus
  split
  next hle => exact UInt32.toNat_sub_of_le _ _ hle
  next hle =>
    have hlt : left.toNat < right.toNat :=
      Nat.lt_of_not_le fun hright => hle (UInt32.le_iff_toNat_le.mpr hright)
    exact (Nat.sub_eq_zero_of_le (Nat.le_of_lt hlt)).symm

theorem toNat_min (left right : Count) : (min left right).toNat = min left.toNat right.toNat := by
  change (if left ≤ right then left else right).toNat = _
  split
  next hle => exact (Nat.min_eq_left (UInt32.le_iff_toNat_le.mp hle)).symm
  next hle =>
    have hright : right.toNat ≤ left.toNat :=
      Nat.le_of_not_le fun hleft => hle (UInt32.le_iff_toNat_le.mpr hleft)
    exact (Nat.min_eq_right hright).symm

@[simp]
theorem toNat_plus (left right : Count) :
    (plus left right).toNat = min (left.toNat + right.toNat) max := by
  unfold plus
  split
  next hle =>
    rw [UInt32.toNat_add, Nat.min_eq_left hle]
    exact Nat.mod_eq_of_lt (Nat.lt_succ_of_le hle)
  next hle => exact (Nat.min_eq_right (Nat.le_of_not_le hle)).symm

theorem sum?_eq_none_iff (left right : Count) :
    sum? left right = none ↔ max < left.toNat + right.toNat := by
  unfold sum?
  split
  next hle => simp [Nat.not_lt.mpr hle]
  next hle => simp [Nat.lt_of_not_le hle]

theorem sum?_eq_some_iff (left right total : Count) :
    sum? left right = some total ↔ total.toNat = left.toNat + right.toNat := by
  unfold sum?
  split
  next hle =>
    have hsum : (left + right).toNat = left.toNat + right.toNat := by
      rw [UInt32.toNat_add]
      exact Nat.mod_eq_of_lt (Nat.lt_succ_of_le hle)
    rw [Option.some_inj, ← UInt32.toNat_inj, hsum]
    exact eq_comm
  next hgt =>
    have hle := toNat_le_max total
    simp only [reduceCtorEq, false_iff]
    omega

end Count

end Muster
