import Mathlib.Data.List.Lex
import Mathlib.Order.Basic
import Muster.Net.Endpoint

/-!
# The order of endpoints

Endpoints are ordered as the lists of their numbers are.  Since these numbers tell endpoints apart,
the order is a strict order of all endpoints.
-/

namespace Muster

theorem Ip.groups_inj {ip other : Ip} (hfamily : ip.isV6 = other.isV6)
    (hgroups : ip.groups = other.groups) : ip = other := by
  cases ip <;> cases other <;>
    simp_all [Ip.groups, Ip.isV6, UInt8.toNat_inj, UInt16.toNat_inj]

namespace Endpoint

variable {left right : Endpoint}

theorem key_inj (hkey : left.key = right.key) : left = right := by
  obtain ⟨ip, port, zone⟩ := left
  obtain ⟨otherIp, otherPort, otherZone⟩ := right
  simp only [key, List.cons_append, List.cons.injEq] at hkey
  obtain ⟨hfamily, hnumbers⟩ := hkey
  obtain ⟨hgroups, hends⟩ := List.append_inj' hnumbers rfl
  simp only [List.cons.injEq, UInt16.toNat_inj, UInt32.toNat_inj, and_true] at hends
  obtain ⟨rfl, rfl⟩ := hends
  have hip : ip = otherIp := by
    refine Ip.groups_inj ?_ hgroups
    cases hleft : ip.isV6 <;> cases hright : otherIp.isV6 <;> simp_all
  rw [hip]

theorem precedes_iff : left.precedes right ↔ left.key < right.key :=
  decide_eq_true_iff

theorem precedesOrEq_iff : left.precedesOrEq right ↔ left.key ≤ right.key := by
  rw [precedesOrEq, Bool.not_eq_true', ← Bool.not_eq_true, precedes_iff, not_lt]

theorem precedesOrEq_trans (left middle right : Endpoint) (hleft : left.precedesOrEq middle)
    (hright : middle.precedesOrEq right) : left.precedesOrEq right :=
  precedesOrEq_iff.mpr ((precedesOrEq_iff.mp hleft).trans (precedesOrEq_iff.mp hright))

theorem precedesOrEq_total (left right : Endpoint) :
    left.precedesOrEq right ∨ right.precedesOrEq left := by
  rw [precedesOrEq_iff, precedesOrEq_iff]
  exact le_total _ _

theorem precedesOrEq_antisymm (hleft : left.precedesOrEq right)
    (hright : right.precedesOrEq left) : left = right :=
  key_inj ((precedesOrEq_iff.mp hleft).antisymm (precedesOrEq_iff.mp hright))

theorem precedes_of_ne (hle : left.precedesOrEq right) (hne : left ≠ right) :
    left.precedes right :=
  precedes_iff.mpr (lt_of_le_of_ne (precedesOrEq_iff.mp hle) fun hkey => hne (key_inj hkey))

end Endpoint

end Muster
