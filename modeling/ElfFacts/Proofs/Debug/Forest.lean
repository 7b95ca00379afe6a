import ElfFacts.Debug.Unit
import Mathlib.Data.List.Perm.Basic

/-!
# The forest of a unit

A unit that is built by adding entries is a forest: the children of an entry are the entries whose
parent it is. Where parents stand before their children, every entry has a finite row of ancestors,
and descending from the roots down to some depth meets each entry of at most that depth once.
-/
namespace ElfFacts.DebugUnit

/-- Units made by adding entries and setting sizes, starting without entries. -/
inductive Built : DebugUnit → Prop
  | empty (offset : UInt64) : Built (empty offset)
  | push {u : DebugUnit} (parent : Option Nat) (offset : UInt64) (tag : String)
      (attributes : List (String × Value)) (hu : Built u) (hp : u.accepts parent) :
      Built (u.push parent offset tag attributes)
  | setSize {u : DebugUnit} (index : Nat) (size : UInt64) (hu : Built u) :
      Built (u.setSize index size)

def parent? (u : DebugUnit) (i : Nat) : Option Nat := (u.get? i).bind (·.parent)

def childrenAt (u : DebugUnit) (i : Nat) : List Nat :=
  ((u.get? i).map (·.children.toList)).getD []

/-- Every parent stands before its children, so no entry is its own parent. -/
def Descending (u : DebugUnit) : Prop := ∀ i p, u.parent? i = some p → p < i

variable {u : DebugUnit}

theorem childrenAt_of_size_le {i : Nat} (hi : u.entries.size ≤ i) : u.childrenAt i = [] := by
  rw [childrenAt, get?, Array.getElem?_eq_none hi, Option.map_none, Option.getD_none]

theorem get?_push (parent : Option Nat) (offset : UInt64) (tag : String)
    (attributes : List (String × Value)) (i : Nat) :
    (u.push parent offset tag attributes).get? i =
      (if i = u.entries.size then some { offset, tag, attributes, parent } else u.get? i).map
        fun e => if parent = some i then addChild u.entries.size e else e := by
  cases parent with
  | none => simp [get?, push, Array.getElem?_push]
  | some p =>
    simp only [get?, push, Array.getElem?_modify, Array.getElem?_push, Option.some.injEq]
    by_cases hp : p = i <;> simp [hp]

theorem parent?_push (parent : Option Nat) (offset : UInt64) (tag : String)
    (attributes : List (String × Value)) (i : Nat) :
    (u.push parent offset tag attributes).parent? i =
      if i = u.entries.size then parent else u.parent? i := by
  have hkeep (e : DebugEntry) :
      (if parent = some i then addChild u.entries.size e else e).parent = e.parent := by
    split <;> rfl
  rw [parent?, get?_push, Option.bind_map]
  simp only [Function.comp_def, hkeep]
  split <;> rfl

theorem childrenAt_push (parent : Option Nat) (offset : UInt64) (tag : String)
    (attributes : List (String × Value)) (hp : u.accepts parent) (i : Nat) :
    (u.push parent offset tag attributes).childrenAt i =
      u.childrenAt i ++ if parent = some i then [u.entries.size] else [] := by
  have hadd (e : DebugEntry) :
      (if parent = some i then addChild u.entries.size e else e).children.toList =
        e.children.toList ++ if parent = some i then [u.entries.size] else [] := by
    split <;> simp [addChild]
  rw [childrenAt, get?_push, Option.map_map]
  simp only [Function.comp_def, hadd]
  by_cases hi : i = u.entries.size
  · simp [hi, childrenAt_of_size_le (Nat.le_refl u.entries.size)]
  · rw [if_neg hi, childrenAt]
    cases he : u.get? i with
    | some e => rfl
    | none =>
      have hle : u.entries.size ≤ i := Array.getElem?_eq_none_iff.1 he
      have hne : parent ≠ some i := by
        rintro rfl
        have hpi : i ≤ u.entries.size := by simpa [accepts] using hp
        omega
      simp [hne]

theorem get?_setSize (index : Nat) (size : UInt64) (i : Nat) :
    (u.setSize index size).get? i =
      (u.get? i).map fun e => if index = i then { e with size := some size } else e := by
  simp only [get?, setSize, Array.getElem?_modify]
  by_cases hi : index = i <;> simp [hi]

theorem parent?_setSize (index : Nat) (size : UInt64) (i : Nat) :
    (u.setSize index size).parent? i = u.parent? i := by
  rw [parent?, get?_setSize, Option.bind_map]
  congr 1
  funext e
  simp only [Function.comp_apply]
  split <;> rfl

theorem childrenAt_setSize (index : Nat) (size : UInt64) (i : Nat) :
    (u.setSize index size).childrenAt i = u.childrenAt i := by
  rw [childrenAt, get?_setSize, Option.map_map]
  congr 2
  funext e
  simp only [Function.comp_apply]
  split <;> rfl

theorem descending_empty (offset : UInt64) : (empty offset).Descending := by
  intro i p h
  simp [parent?, get?, empty] at h

theorem Descending.push (hd : u.Descending) (parent : Option Nat) (offset : UInt64) (tag : String)
    (attributes : List (String × Value)) (hp : ∀ p ∈ parent, p < u.entries.size) :
    (u.push parent offset tag attributes).Descending := by
  intro i p h
  rw [parent?_push] at h
  split at h
  · next hi =>
    rw [hi]
    exact hp p h
  · exact hd i p h

namespace Built

theorem childrenAt_eq (hu : u.Built) (p : Nat) :
    u.childrenAt p = (List.range u.entries.size).filter fun i => u.parent? i = some p := by
  induction hu with
  | empty offset => rfl
  | @push u parent offset tag attributes hu hp ih =>
    have hold : (List.range u.entries.size).filter (fun i =>
        (u.push parent offset tag attributes).parent? i = some p) = u.childrenAt p := by
      rw [ih]
      apply List.filter_congr
      intro i hi
      have hne : i ≠ u.entries.size := by
        have := List.mem_range.1 hi
        omega
      rw [parent?_push, if_neg hne]
    rw [size_push, List.range_succ, List.filter_append, hold, childrenAt_push _ _ _ _ hp]
    congr 1
    simp [parent?_push, List.filter_cons]
  | setSize index size hu ih =>
    simp only [childrenAt_setSize, size_setSize, parent?_setSize, ih]

end Built

/-- The entries above an entry, the root first. -/
def ancestors (u : DebugUnit) (i : Nat) : List Nat :=
  match u.parent? i with
  | none => []
  | some p => if p < i then ancestors u p ++ [p] else []

def depth (u : DebugUnit) (i : Nat) : Nat := (u.ancestors i).length

theorem ancestors_of_root {i : Nat} (h : u.parent? i = none) : u.ancestors i = [] := by
  rw [ancestors, h]

theorem ancestors_of_parent (hd : u.Descending) {i p : Nat} (h : u.parent? i = some p) :
    u.ancestors i = u.ancestors p ++ [p] := by
  rw [ancestors, h]
  exact if_pos (hd i p h)

theorem depth_of_parent (hd : u.Descending) {i p : Nat} (h : u.parent? i = some p) :
    u.depth i = u.depth p + 1 := by
  rw [depth, ancestors_of_parent hd h, List.length_append]
  rfl

theorem depth_eq_zero_iff (hd : u.Descending) (i : Nat) : u.depth i = 0 ↔ u.parent? i = none := by
  cases h : u.parent? i with
  | none => simp [depth, ancestors_of_root h]
  | some p => simp [depth_of_parent hd h]

/-- An entry and those below it down to some number of steps, in preorder. -/
def below (u : DebugUnit) : Nat → Nat → List Nat
  | 0, i => [i]
  | n + 1, i => i :: (u.childrenAt i).flatMap (below u n)

theorem below_succ_perm (n i : Nat) :
    (u.below (n + 1) i).Perm (i :: (u.below n i).flatMap u.childrenAt) := by
  induction n generalizing i with
  | zero => simp [below]
  | succ n ih =>
    rw [below]
    refine List.Perm.cons i ?_
    rw [below, List.flatMap_cons, List.flatMap_assoc]
    have hstep : ((u.childrenAt i).flatMap (u.below (n + 1))).Perm
        ((u.childrenAt i).flatMap fun j => [j] ++ (u.below n j).flatMap u.childrenAt) :=
      List.Perm.flatMap_left _ fun j _ => ih j
    refine hstep.trans ((List.flatMap_append_perm _ _ _).symm.trans ?_)
    rw [List.flatMap_singleton']

theorem flatMap_filter_perm (key : Nat → Option Nat) (l : List Nat) {keys : List Nat}
    (hk : keys.Nodup) :
    (keys.flatMap fun p => l.filter fun i => key i = some p).Perm
      (l.filter fun i => (key i).any (· ∈ keys)) := by
  induction keys with
  | nil => simp
  | cons p keys ih =>
    rw [List.nodup_cons] at hk
    rw [List.flatMap_cons]
    refine ((ih hk.2).append_left _).trans ?_
    have hsplit := List.filter_append_perm (fun i => decide (key i = some p))
      (l.filter fun i => (key i).any (· ∈ p :: keys))
    refine List.Perm.trans ?_ hsplit
    rw [List.filter_filter, List.filter_filter]
    apply List.Perm.of_eq
    congr 1
    · apply List.filter_congr
      intro i _
      by_cases hi : key i = some p <;> simp [hi]
    · apply List.filter_congr
      intro i _
      cases hi : key i with
      | none => rfl
      | some q => by_cases hq : q = p <;> simp [hq, hk.1]

theorem flatMap_childrenAt_perm (hu : u.Built) {parents : List Nat} (hp : parents.Nodup) :
    (parents.flatMap u.childrenAt).Perm
      ((List.range u.entries.size).filter fun i => (u.parent? i).any (· ∈ parents)) := by
  have heq : u.childrenAt = fun p => (List.range u.entries.size).filter
      fun i => u.parent? i = some p := funext hu.childrenAt_eq
  rw [heq]
  exact flatMap_filter_perm u.parent? _ hp

def upTo (u : DebugUnit) (n : Nat) : List Nat :=
  (List.range u.entries.size).filter fun i => u.depth i ≤ n

theorem mem_upTo {n i : Nat} : i ∈ u.upTo n ↔ i < u.entries.size ∧ u.depth i ≤ n := by
  simp [upTo]

theorem nodup_upTo (n : Nat) : (u.upTo n).Nodup := List.nodup_range.filter _

/-- Descending from the roots meets every entry down to a depth exactly once. -/
theorem flatMap_below_perm (hu : u.Built) (hd : u.Descending) (n : Nat) :
    (u.roots.flatMap (u.below n)).Perm (u.upTo n) := by
  have hroots : u.roots = (List.range u.entries.size).filter fun i => u.depth i = 0 := by
    apply List.filter_congr
    intro i _
    change (u.parent? i).isNone = _
    rw [Bool.eq_iff_iff, decide_eq_true_eq, depth_eq_zero_iff hd, Option.isNone_iff_eq_none]
  induction n with
  | zero =>
    have hself : u.below 0 = fun i => [i] := rfl
    rw [hself, List.flatMap_singleton', hroots]
    simp [upTo]
  | succ n ih =>
    have hstep : (u.roots.flatMap (u.below (n + 1))).Perm
        (u.roots.flatMap fun i => [i] ++ (u.below n i).flatMap u.childrenAt) :=
      List.Perm.flatMap_left _ fun i _ => below_succ_perm n i
    refine hstep.trans ((List.flatMap_append_perm _ _ _).symm.trans ?_)
    rw [List.flatMap_singleton', ← List.flatMap_assoc]
    refine ((List.Perm.flatMap_right _ ih).append_left _).trans ?_
    refine ((flatMap_childrenAt_perm hu (nodup_upTo n)).append_left _).trans ?_
    have hsplit := List.filter_append_perm (fun i => decide (u.depth i = 0)) (u.upTo (n + 1))
    refine List.Perm.trans (List.Perm.of_eq ?_) hsplit
    have hnext : u.upTo (n + 1) =
        (List.range u.entries.size).filter fun i => u.depth i ≤ n + 1 := rfl
    rw [hroots, hnext, List.filter_filter, List.filter_filter]
    congr 1
    · apply List.filter_congr
      intro i _
      by_cases hi : u.depth i = 0 <;> simp [hi]
    · apply List.filter_congr
      intro i hi
      rw [List.mem_range] at hi
      cases hp : u.parent? i with
      | none => simp [(depth_eq_zero_iff hd i).2 hp]
      | some p =>
        have hlt : p < u.entries.size := Nat.lt_trans (hd i p hp) hi
        simp [depth_of_parent hd hp, mem_upTo, hlt]

end ElfFacts.DebugUnit
