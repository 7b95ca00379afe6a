import ElfFacts.Proofs.Debug.Forest
import Mathlib.Algebra.Order.BigOperators.Group.List
import Mathlib.Algebra.Order.Ring.Nat
import Mathlib.Data.List.Nodup
import Mathlib.Data.List.Perm.Subperm

/-!
# Entries by their distance from a starting entry

The entries that lie a number of steps below an entry are its level of that number. An entry has one
parent, so it is in a level at most once, also where an entry is its own child. Where no entry is,
two levels have nothing in common.
-/
namespace ElfFacts.DebugUnit

variable {u : DebugUnit} {i j : Nat}

def level (u : DebugUnit) : Nat → Nat → List Nat
  | 0, i => [i]
  | n + 1, i => (level u n i).flatMap u.childrenAt

theorem below_perm_levels (n i : Nat) :
    (u.below n i).Perm ((List.range (n + 1)).flatMap fun k => u.level k i) := by
  induction n with
  | zero => exact .refl _
  | succ n ih =>
    have hnext : (u.below n i).flatMap u.childrenAt |>.Perm
        ((List.range (n + 1)).flatMap fun k => u.level (k + 1) i) := by
      refine (ih.flatMap_right _).trans (.of_eq ?_)
      rw [List.flatMap_assoc]
      rfl
    rw [List.range_succ_eq_map, List.flatMap_cons, List.flatMap_map]
    exact (below_succ_perm n i).trans (hnext.cons i)

theorem lt_size_of_mem_childrenAt (hu : u.Built) (hj : j ∈ u.childrenAt i) :
    j < u.entries.size ∧ u.parent? j = some i := by
  rw [hu.childrenAt_eq, List.mem_filter, List.mem_range, decide_eq_true_eq] at hj
  exact hj

theorem mem_level_succ (hu : u.Built) {n : Nat} (hj : j ∈ u.level (n + 1) i) :
    j < u.entries.size ∧ ∃ p ∈ u.level n i, u.parent? j = some p := by
  obtain ⟨p, hp, hj⟩ := List.mem_flatMap.1 hj
  obtain ⟨hlt, hparent⟩ := lt_size_of_mem_childrenAt hu hj
  exact ⟨hlt, p, hp, hparent⟩

theorem lt_size_of_mem_level (hu : u.Built) (hi : i < u.entries.size) {n : Nat}
    (hj : j ∈ u.level n i) : j < u.entries.size := by
  cases n with
  | zero => rwa [List.mem_singleton.1 hj]
  | succ n => exact (mem_level_succ hu hj).1

theorem nodup_level (hu : u.Built) (n i : Nat) : (u.level n i).Nodup := by
  induction n with
  | zero => exact List.nodup_singleton i
  | succ n ih => exact (flatMap_childrenAt_perm hu ih).nodup_iff.2 (List.nodup_range.filter _)

theorem length_le_size {l : List Nat} (hl : l.Nodup) (h : ∀ j ∈ l, j < u.entries.size) :
    l.length ≤ u.entries.size := by
  have hsub : l ⊆ List.range u.entries.size := fun j hj => List.mem_range.2 (h j hj)
  have hlength := (hl.subperm hsub).length_le
  rwa [List.length_range] at hlength

theorem length_level_le (hu : u.Built) (hi : i < u.entries.size) (n : Nat) :
    (u.level n i).length ≤ u.entries.size :=
  length_le_size (nodup_level hu n i) fun _ hj => lt_size_of_mem_level hu hi hj

theorem length_below_le (hu : u.Built) (hi : i < u.entries.size) (n : Nat) :
    (u.below n i).length ≤ (n + 1) * u.entries.size := by
  rw [(below_perm_levels n i).length_eq, List.length_flatMap]
  have hsum := List.sum_le_card_nsmul ((List.range (n + 1)).map fun k => (u.level k i).length)
    u.entries.size fun m hm => by
      obtain ⟨k, -, rfl⟩ := List.mem_map.1 hm
      exact length_level_le hu hi k
  rwa [List.length_map, List.length_range] at hsum

theorem depth_of_mem_level (hu : u.Built) (hd : u.Descending) {n : Nat} (hj : j ∈ u.level n i) :
    u.depth j = u.depth i + n := by
  induction n generalizing j with
  | zero => rw [List.mem_singleton.1 hj, Nat.add_zero]
  | succ n ih =>
    obtain ⟨-, p, hp, hparent⟩ := mem_level_succ hu hj
    rw [depth_of_parent hd hparent, ih hp, Nat.add_assoc]

theorem nodup_below (hu : u.Built) (hd : u.Descending) (n i : Nat) : (u.below n i).Nodup := by
  rw [(below_perm_levels n i).nodup_iff, List.nodup_flatMap]
  refine ⟨fun k _ => nodup_level hu k i, List.nodup_range.pairwise_of_forall_ne ?_⟩
  intro k _ m _ hne j hk hm
  have hdepth := depth_of_mem_level hu hd hk
  rw [depth_of_mem_level hu hd hm] at hdepth
  omega

theorem lt_size_of_mem_below (hu : u.Built) (hi : i < u.entries.size) {n : Nat}
    (hj : j ∈ u.below n i) : j < u.entries.size := by
  rw [(below_perm_levels n i).mem_iff, List.mem_flatMap] at hj
  obtain ⟨k, -, hj⟩ := hj
  exact lt_size_of_mem_level hu hi hj

theorem Built.parent?_le (hu : u.Built) {p : Nat} (h : u.parent? i = some p) : p ≤ i := by
  induction hu generalizing i with
  | empty offset => simp [parent?, get?] at h
  | push parent offset tag attributes hu hp ih =>
    rw [parent?_push] at h
    split at h
    · next hi =>
      rw [h] at hp
      simpa [accepts, hi] using hp
    · exact ih h
  | setSize index size hu ih =>
    rw [parent?_setSize] at h
    exact ih h

theorem Built.descending (hu : u.Built) (h : ∀ i, u.parent? i ≠ some i) : u.Descending := by
  intro i p hp
  have hne : p ≠ i := fun he => h i (he ▸ hp)
  exact Nat.lt_of_le_of_ne (hu.parent?_le hp) hne

end ElfFacts.DebugUnit
