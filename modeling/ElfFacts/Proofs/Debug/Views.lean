import ElfFacts.Proofs.Debug.Levels
import Mathlib.Logic.Relation

/-!
# The views of a unit agree

Parents, children, roots and the index of offsets say the same about the entries of a unit that was
built: the index leads to the last entry with an offset, and where no entry is its own parent, each
entry lies below one root.
-/
namespace ElfFacts.DebugUnit

def offset? (u : DebugUnit) (i : Nat) : Option UInt64 := (u.get? i).map (·.offset)

/-- The entry `i` is the entry `r`, or lies some steps below it. -/
def Under (u : DebugUnit) (r i : Nat) : Prop :=
  Relation.ReflTransGen (fun p i => i ∈ u.childrenAt p) r i

variable {u : DebugUnit} {i j : Nat} {o : UInt64}

theorem offset?_push (parent : Option Nat) (offset : UInt64) (tag : String)
    (attributes : List (String × Value)) (i : Nat) :
    (u.push parent offset tag attributes).offset? i =
      if i = u.entries.size then some offset else u.offset? i := by
  have hkeep (e : DebugEntry) :
      (if parent = some i then addChild u.entries.size e else e).offset = e.offset := by
    split <;> rfl
  rw [offset?, get?_push, Option.map_map]
  simp only [Function.comp_def, hkeep]
  split <;> rfl

theorem offset?_setSize (index : Nat) (size : UInt64) (i : Nat) :
    (u.setSize index size).offset? i = u.offset? i := by
  rw [offset?, get?_setSize, Option.map_map]
  congr 1
  funext e
  simp only [Function.comp_apply]
  split <;> rfl

theorem lt_size_of_offset? (h : u.offset? i = some o) : i < u.entries.size := by
  obtain ⟨e, he, -⟩ := Option.map_eq_some_iff.1 h
  exact (Array.getElem?_eq_some_iff.1 he).1

theorem indexOf?_push (parent : Option Nat) (offset : UInt64) (tag : String)
    (attributes : List (String × Value)) (o : UInt64) :
    (u.push parent offset tag attributes).indexOf? o =
      if offset = o then some u.entries.size else u.indexOf? o := by
  change (u.byOffset.insert offset u.entries.size)[o]? = _
  rw [Std.HashMap.getElem?_insert]
  simp only [beq_iff_eq]
  rfl

/-- The index leads from an offset to the last entry with it. -/
structure Indexed (u : DebugUnit) : Prop where
  sound : ∀ o i, u.indexOf? o = some i → u.offset? i = some o ∧ ∀ j, i < j → u.offset? j ≠ some o
  complete : ∀ o i, u.offset? i = some o → u.indexOf? o ≠ none

theorem indexed_empty (offset : UInt64) : (empty offset).Indexed where
  sound o i h := by simp [indexOf?, empty] at h
  complete o i h := by simp [offset?, get?, empty] at h

theorem Indexed.push (hu : u.Indexed) (parent : Option Nat) (offset : UInt64) (tag : String)
    (attributes : List (String × Value)) : (u.push parent offset tag attributes).Indexed where
  sound o i h := by
    rw [indexOf?_push] at h
    simp only [offset?_push]
    split at h
    · next ho =>
      obtain rfl := Option.some.inj h
      rw [if_pos rfl, ho]
      refine ⟨rfl, fun j hj hlater => ?_⟩
      rw [if_neg (Nat.ne_of_gt hj)] at hlater
      exact absurd (lt_size_of_offset? hlater) (Nat.lt_asymm hj)
    · next ho =>
      obtain ⟨hi, hlast⟩ := hu.sound o i h
      rw [if_neg (Nat.ne_of_lt (lt_size_of_offset? hi))]
      refine ⟨hi, fun j hj hlater => ?_⟩
      split at hlater
      · exact ho (Option.some.inj hlater)
      · exact hlast j hj hlater
  complete o i h := by
    rw [indexOf?_push]
    rw [offset?_push] at h
    split
    · exact Option.some_ne_none _
    · next ho =>
      split at h
      · exact absurd (Option.some.inj h) ho
      · exact hu.complete o i h

theorem Indexed.setSize (hu : u.Indexed) (index : Nat) (size : UInt64) :
    (u.setSize index size).Indexed where
  sound o i h := by
    simp only [offset?_setSize]
    exact hu.sound o i h
  complete o i h := by
    rw [offset?_setSize] at h
    exact hu.complete o i h

theorem Built.indexed (hu : u.Built) : u.Indexed := by
  induction hu with
  | empty offset => exact indexed_empty offset
  | push parent offset tag attributes hu hp ih => exact ih.push parent offset tag attributes
  | setSize index size hu ih => exact ih.setSize index size

theorem Indexed.indexOf?_eq_some_iff (hu : u.Indexed) :
    u.indexOf? o = some i ↔ u.offset? i = some o ∧ ∀ j, i < j → u.offset? j ≠ some o := by
  refine ⟨hu.sound o i, fun ⟨hi, hlast⟩ => ?_⟩
  obtain ⟨j, hj⟩ := Option.ne_none_iff_exists'.1 (hu.complete o i hi)
  obtain ⟨hoffset, hlastj⟩ := hu.sound o j hj
  rcases Nat.lt_trichotomy i j with hij | rfl | hji
  · exact absurd hoffset (hlast j hij)
  · exact hj
  · exact absurd hi (hlastj i hji)

theorem Indexed.indexOf?_eq_none_iff (hu : u.Indexed) :
    u.indexOf? o = none ↔ ∀ i, u.offset? i ≠ some o := by
  refine ⟨fun h i hi => hu.complete o i hi h, fun h => ?_⟩
  cases hfind : u.indexOf? o with
  | none => rfl
  | some i => exact absurd (hu.sound o i hfind).1 (h i)

theorem lt_size_of_parent? {p : Nat} (h : u.parent? i = some p) : i < u.entries.size := by
  obtain ⟨e, he, -⟩ := Option.bind_eq_some_iff.1 h
  exact (Array.getElem?_eq_some_iff.1 he).1

theorem mem_roots : i ∈ u.roots ↔ i < u.entries.size ∧ u.parent? i = none := by
  rw [roots, List.mem_filter, List.mem_range, Option.isNone_iff_eq_none]
  rfl

theorem roots_pairwise (u : DebugUnit) : u.roots.Pairwise (· < ·) :=
  List.pairwise_lt_range.filter _

namespace Built

theorem mem_childrenAt (hu : u.Built) {p : Nat} : i ∈ u.childrenAt p ↔ u.parent? i = some p := by
  rw [hu.childrenAt_eq, List.mem_filter, List.mem_range, decide_eq_true_eq]
  exact and_iff_right_of_imp lt_size_of_parent?

theorem childrenAt_pairwise (hu : u.Built) (p : Nat) : (u.childrenAt p).Pairwise (· < ·) := by
  rw [hu.childrenAt_eq]
  exact List.pairwise_lt_range.filter _

theorem exists_root (hu : u.Built) (hd : u.Descending) (hi : i < u.entries.size) :
    ∃ r ∈ u.roots, u.Under r i := by
  induction i using Nat.strongRecOn with
  | _ i ih =>
    cases hp : u.parent? i with
    | none => exact ⟨i, mem_roots.2 ⟨hi, hp⟩, .refl⟩
    | some p =>
      have hlt := hd i p hp
      obtain ⟨r, hr, hunder⟩ := ih p hlt (Nat.lt_trans hlt hi)
      exact ⟨r, hr, hunder.tail (hu.mem_childrenAt.2 hp)⟩

/-- Two ways up from an entry go the same steps, and a root ends both. -/
theorem root_unique (hu : u.Built) {r r' : Nat} (hr : u.parent? r = none)
    (hr' : u.parent? r' = none) (h : u.Under r i) (h' : u.Under r' i) : r = r' := by
  induction h with
  | refl =>
    cases h' with
    | refl => rfl
    | tail _ hstep =>
      rw [hu.mem_childrenAt, hr] at hstep
      cases hstep
  | tail _ hstep ih =>
    rw [hu.mem_childrenAt] at hstep
    cases h' with
    | refl =>
      rw [hr'] at hstep
      cases hstep
    | tail habove hstep' =>
      rw [hu.mem_childrenAt, hstep] at hstep'
      obtain rfl := Option.some.inj hstep'
      exact ih habove

theorem existsUnique_root (hu : u.Built) (hd : u.Descending) (hi : i < u.entries.size) :
    ∃! r, r ∈ u.roots ∧ u.Under r i := by
  obtain ⟨r, hr, hunder⟩ := hu.exists_root hd hi
  refine ⟨r, ⟨hr, hunder⟩, fun r' ⟨hr', hunder'⟩ => ?_⟩
  exact hu.root_unique (mem_roots.1 hr').2 (mem_roots.1 hr).2 hunder' hunder

end Built

/-- What the views of a unit say about each other. -/
structure Consistent (u : DebugUnit) : Prop where
  mem_children : ∀ p i, i ∈ u.childrenAt p ↔ u.parent? i = some p
  children_lt : ∀ p, (u.childrenAt p).Pairwise (· < ·)
  parent_le : ∀ i p, u.parent? i = some p → p ≤ i
  index_some : ∀ o i,
    u.indexOf? o = some i ↔ u.offset? i = some o ∧ ∀ j, i < j → u.offset? j ≠ some o
  index_none : ∀ o, u.indexOf? o = none ↔ ∀ i, u.offset? i ≠ some o
  mem_roots : ∀ i, i ∈ u.roots ↔ i < u.entries.size ∧ u.parent? i = none
  roots_lt : u.roots.Pairwise (· < ·)
  root : (∀ i, u.parent? i ≠ some i) → ∀ i < u.entries.size, ∃! r, r ∈ u.roots ∧ u.Under r i

theorem Built.consistent (hu : u.Built) : u.Consistent where
  mem_children _ _ := hu.mem_childrenAt
  children_lt := hu.childrenAt_pairwise
  parent_le _ _ := hu.parent?_le
  index_some _ _ := hu.indexed.indexOf?_eq_some_iff
  index_none _ := hu.indexed.indexOf?_eq_none_iff
  mem_roots _ := mem_roots
  roots_lt := roots_pairwise u
  root hself _ := hu.existsUnique_root (hu.descending hself)

end ElfFacts.DebugUnit
