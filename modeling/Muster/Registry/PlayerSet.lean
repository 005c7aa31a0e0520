import Muster.Match.Criteria

/-!
# Sets of players

A set of players is kept as the ascending list of its members, so sets with the same members are
equal, whatever was done to them.
-/

namespace Muster

/-- Players, each of them once. -/
structure PlayerSet where
  toList : List PlayerId
  ascending : toList.Pairwise (· < ·)
  deriving DecidableEq, Repr

namespace PlayerSet

instance : Membership PlayerId PlayerSet :=
  ⟨fun players player => player ∈ players.toList⟩

instance (player : PlayerId) (players : PlayerSet) : Decidable (player ∈ players) :=
  inferInstanceAs (Decidable (player ∈ players.toList))

def empty : PlayerSet :=
  ⟨[], .nil⟩

def size (players : PlayerSet) : Nat :=
  players.toList.length

/-- Puts a player in its place among others. -/
def place (player : PlayerId) : List PlayerId → List PlayerId
  | [] => [player]
  | first :: rest =>
    if player < first then player :: first :: rest
    else if player = first then first :: rest
    else first :: place player rest

variable {player other : PlayerId} {players others : PlayerSet}

theorem mem_place {list : List PlayerId} :
    other ∈ place player list ↔ other = player ∨ other ∈ list := by
  induction list with
  | nil => simp [place]
  | cons first rest ih =>
    rw [place]
    split
    · exact List.mem_cons
    · split
      next hfirst => simp [hfirst]
      next => rw [List.mem_cons, ih, List.mem_cons, or_left_comm]

theorem ascending_place {list : List PlayerId} (hascending : list.Pairwise (· < ·)) :
    (place player list).Pairwise (· < ·) := by
  induction list with
  | nil => exact List.pairwise_singleton _ _
  | cons first rest ih =>
    have hrest := List.pairwise_cons.mp hascending
    rw [place]
    split
    next hless =>
      refine List.pairwise_cons.mpr ⟨?_, hascending⟩
      intro later hlater
      rcases List.mem_cons.mp hlater with rfl | hlater
      · exact hless
      · exact UInt64.lt_trans hless (hrest.1 later hlater)
    next hless =>
      split
      next => exact hascending
      next hdistinct =>
        refine List.pairwise_cons.mpr ⟨?_, ih hrest.2⟩
        intro later hlater
        rcases mem_place.mp hlater with rfl | hlater
        · exact UInt64.lt_of_le_of_ne (UInt64.not_lt.mp hless) (Ne.symm hdistinct)
        · exact hrest.1 later hlater

def insert (players : PlayerSet) (player : PlayerId) : PlayerSet :=
  ⟨place player players.toList, ascending_place players.ascending⟩

def erase (players : PlayerSet) (player : PlayerId) : PlayerSet :=
  ⟨players.toList.filter (· != player), players.ascending.filter _⟩

@[simp]
theorem not_mem_empty : player ∉ empty :=
  List.not_mem_nil

@[simp]
theorem mem_insert : other ∈ players.insert player ↔ other = player ∨ other ∈ players :=
  mem_place

@[simp]
theorem mem_erase : other ∈ players.erase player ↔ other ∈ players ∧ other ≠ player := by
  refine List.mem_filter.trans ?_
  rw [bne_iff_ne]
  rfl

theorem nodup_toList (players : PlayerSet) : players.toList.Nodup :=
  players.ascending.imp UInt64.ne_of_lt

theorem eq_of_mem_iff (hmem : ∀ player, player ∈ players ↔ player ∈ others) :
    players = others := by
  have hperm : players.toList.Perm others.toList :=
    (List.perm_ext_iff_of_nodup players.nodup_toList others.nodup_toList).mpr hmem
  have hlists : players.toList = others.toList :=
    hperm.eq_of_pairwise (fun _ _ _ _ hless hgreater => absurd hgreater (UInt64.lt_asymm hless))
      players.ascending others.ascending
  cases players
  cases others
  rw [mk.injEq]
  exact hlists

theorem insert_of_mem (hmem : player ∈ players) : players.insert player = players :=
  eq_of_mem_iff fun _ => by
    rw [mem_insert, or_iff_right_of_imp]
    rintro rfl
    exact hmem

theorem insert_erase (hmem : player ∈ players) : (players.erase player).insert player = players :=
  eq_of_mem_iff fun other => by
    rw [mem_insert, mem_erase]
    by_cases hsame : other = player <;> simp [hsame, hmem]

theorem erase_of_not_mem (hmem : player ∉ players) : players.erase player = players :=
  eq_of_mem_iff fun other => by
    rw [mem_erase, and_iff_left_of_imp]
    rintro hother rfl
    exact hmem hother

end PlayerSet

end Muster
