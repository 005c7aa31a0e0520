import Mathlib.Data.List.Flatten
import Mathlib.Tactic.SplitIfs
import Muster.Exchange.Pending
import Muster.Proofs.Keyed
import Muster.Proofs.Parts

/-!
# Looking up in the index

Setting the requests under one key changes what is found under that key and nothing else.  In an
index that has no two buckets for one key, a request is indexed if it is found under some key.  An
index that keeps no key without requests is empty if and only if it has none.
-/

namespace Muster.Pending

variable {pending : Pending} {key other : Request.Key} {ids : List RequestId} {id : RequestId}

def IsKeyed (pending : Pending) : Prop :=
  (pending.buckets.map (·.1)).Nodup

theorem isKeyed_empty : empty.IsKeyed :=
  List.nodup_nil

theorem get_set (pending : Pending) (key other : Request.Key) (ids : List RequestId) :
    (pending.set key ids).get other = if other = key then ids else pending.get other := by
  rw [get, set]
  cases ids with
  | nil =>
      rw [if_pos List.isEmpty_nil, List.find?_filter]
      split_ifs with hother
      · rw [List.find?_eq_none.mpr]
        · rfl
        · intro bucket _
          simp [hother]
      · have hsame : (fun bucket : Request.Key × List RequestId =>
            decide ((bucket.1 != key) = true ∧ (bucket.1 == other) = true)) =
              fun bucket => bucket.1 == other := by
          funext bucket
          rw [Bool.eq_iff_iff, decide_eq_true_iff]
          refine ⟨And.right, fun hbucket => ⟨?_, hbucket⟩⟩
          rw [beq_iff_eq.mp hbucket]
          exact bne_iff_ne.mpr hother
        rw [hsame, get]
  | cons first rest =>
      rw [if_neg (by simp), Keyed.find?_alter]
      split_ifs with hother
      · rfl
      · rw [get]

theorem IsKeyed.set (hkeyed : pending.IsKeyed) (key : Request.Key) (ids : List RequestId) :
    (pending.set key ids).IsKeyed := by
  rw [IsKeyed, Pending.set]
  split_ifs
  · exact hkeyed.sublist (List.filter_sublist.map _)
  · exact Keyed.nodup_keys_alter hkeyed key fun _ => ids

/-- What stands in a bucket is found under its key. -/
theorem get_of_mem (hkeyed : pending.IsKeyed) {bucket : Request.Key × List RequestId}
    (hbucket : bucket ∈ pending.buckets) : pending.get bucket.1 = bucket.2 := by
  rw [get, Parts.find?_key hkeyed hbucket]
  rfl

theorem contains_iff (hkeyed : pending.IsKeyed) :
    pending.contains id ↔ ∃ key, id ∈ pending.get key := by
  rw [contains, List.contains_iff_mem, Pending.ids, List.mem_flatMap]
  constructor
  · rintro ⟨bucket, hbucket, hid⟩
    refine ⟨bucket.1, ?_⟩
    rwa [get_of_mem hkeyed hbucket]
  · rintro ⟨key, hid⟩
    rw [get] at hid
    cases hfound : pending.buckets.find? fun bucket => bucket.1 == key with
    | none =>
        rw [hfound] at hid
        exact absurd hid List.not_mem_nil
    | some bucket =>
        rw [hfound] at hid
        exact ⟨bucket, List.mem_of_find?_eq_some hfound, hid⟩

/-! ## Keys without requests -/

/-- No key is kept without requests. -/
def IsPruned (pending : Pending) : Prop :=
  ∀ bucket ∈ pending.buckets, bucket.2 ≠ []

theorem isPruned_empty : empty.IsPruned := fun _ hbucket => absurd hbucket List.not_mem_nil

theorem IsPruned.set (hpruned : pending.IsPruned) (key : Request.Key) (ids : List RequestId) :
    (pending.set key ids).IsPruned := by
  intro bucket hbucket
  rw [Pending.set] at hbucket
  split_ifs at hbucket with hids
  · exact hpruned bucket (List.mem_filter.mp hbucket).1
  · rcases Keyed.mem_alter hbucket with ⟨-, rfl⟩ | hearlier
    · exact fun hnil => hids (List.isEmpty_iff.mpr hnil)
    · exact hpruned bucket hearlier

/-- An index without empty keys is empty if it has no requests. -/
theorem isEmpty_iff (hpruned : pending.IsPruned) : pending.isEmpty ↔ pending.size = 0 := by
  rw [isEmpty, List.isEmpty_iff, size, List.length_eq_zero_iff, Pending.ids,
    List.flatMap_eq_nil_iff]
  constructor
  · intro hnil bucket hbucket
    rw [hnil] at hbucket
    exact absurd hbucket List.not_mem_nil
  · intro hnil
    rw [List.eq_nil_iff_forall_not_mem]
    exact fun bucket hbucket => hpruned bucket hbucket (hnil bucket hbucket)

/-! ## Counting -/

theorem get_cons_of_ne {first : Request.Key × List RequestId}
    {rest : List (Request.Key × List RequestId)} (hfirst : first.1 ≠ key) :
    get ⟨first :: rest⟩ key = get ⟨rest⟩ key := by
  rw [get, List.find?_cons_of_neg (by simpa using hfirst), get]

/-- Setting the requests under a key changes how many are indexed by the difference. -/
theorem length_alter (key : Request.Key) (ids : List RequestId)
    (buckets : List (Request.Key × List RequestId)) :
    ((Keyed.alter key (fun _ => ids) buckets).flatMap (·.2)).length +
        (get ⟨buckets⟩ key).length =
      (buckets.flatMap (·.2)).length + ids.length := by
  induction buckets with
  | nil => simp [Keyed.alter, get]
  | cons first rest ih =>
      rw [Keyed.alter]
      split_ifs with hfirst
      · simp [get, hfirst]
        omega
      · rw [get_cons_of_ne hfirst, List.flatMap_cons, List.length_append, List.flatMap_cons,
          List.length_append]
        omega

theorem length_drop {buckets : List (Request.Key × List RequestId)}
    (hkeyed : IsKeyed ⟨buckets⟩) (key : Request.Key) :
    ((buckets.filter (·.1 != key)).flatMap (·.2)).length + (get ⟨buckets⟩ key).length =
      (buckets.flatMap (·.2)).length := by
  induction buckets with
  | nil => rfl
  | cons first rest ih =>
      obtain ⟨hfirst, hrest⟩ := List.nodup_cons.mp hkeyed
      by_cases hkey : first.1 = key
      · have hothers : rest.filter (·.1 != key) = rest := by
          rw [List.filter_eq_self]
          intro bucket hbucket
          rw [bne_iff_ne, ← hkey]
          intro hsame
          exact hfirst (List.mem_map.mpr ⟨bucket, hbucket, hsame⟩)
        rw [List.filter_cons_of_neg (by simpa using hkey), hothers]
        simp [get, hkey, Nat.add_comm]
      · rw [get_cons_of_ne hkey, List.filter_cons_of_pos (by simpa using hkey), List.flatMap_cons,
          List.flatMap_cons, List.length_append, List.length_append, ← ih hrest, Nat.add_assoc]

/-- How many requests are indexed once those under a key have been replaced. -/
theorem size_set (hkeyed : pending.IsKeyed) (key : Request.Key) (ids : List RequestId) :
    (pending.set key ids).size + (pending.get key).length = pending.size + ids.length := by
  rw [size, Pending.ids, Pending.set]
  split_ifs with hids
  · rw [List.isEmpty_iff.mp hids]
    exact length_drop hkeyed key
  · exact length_alter key ids pending.buckets

/-- Each request stands in the index once if it does under each key and under one key alone. -/
theorem nodup_ids (hkeyed : pending.IsKeyed) (hnodup : ∀ key, (pending.get key).Nodup)
    (hone : ∀ key other id, id ∈ pending.get key → id ∈ pending.get other → key = other) :
    pending.ids.Nodup := by
  rw [Pending.ids, List.nodup_flatMap]
  constructor
  · intro bucket hbucket
    rw [← get_of_mem hkeyed hbucket]
    exact hnodup bucket.1
  · refine (List.pairwise_map.mp hkeyed).imp_of_mem ?_
    intro first second hfirst hsecond hkeys id hid hother
    apply hkeys
    apply hone first.1 second.1 id
    · rwa [get_of_mem hkeyed hfirst]
    · rwa [get_of_mem hkeyed hsecond]

end Muster.Pending
