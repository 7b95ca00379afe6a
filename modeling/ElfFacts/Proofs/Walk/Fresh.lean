import ElfFacts.Proofs.Debug.Forest
import ElfFacts.Proofs.Walk.Preorder
import Mathlib.Data.List.Nodup

/-!
# Walks that meet every entry once

Where the units are forests, distinct entries have distinct identities and no pair of an entry with
a child has been recorded, nothing is left out: the walk visits the roots and all entries below them
down to the depth limit, in preorder. `Unmet` is the invariant that says which entries are still to
come and that the ledger knows nothing of them.
-/
namespace ElfFacts

namespace DebugUnit

variable {u : DebugUnit}

/-- The entry at an index; only indices of entries are asked for. -/
def entryAt (u : DebugUnit) (i : Nat) : DebugEntry := (u.get? i).getD default

/-- The identity of an entry, folded along its ancestors from a root that has no parent. -/
def identityAt (u : DebugUnit) (path : String) (i : Nat) : Identity :=
  Identity.ofEntry path u.offset (u.entryAt i)
    (Identity.ofChain path u.offset ((u.ancestors i).map u.entryAt))

theorem identityAt_of_root (path : String) {i : Nat} (h : u.parent? i = none) :
    u.identityAt path i = Identity.ofEntry path u.offset (u.entryAt i) none := by
  rw [identityAt, ancestors_of_root h]
  rfl

theorem identityAt_of_parent (path : String) (hd : u.Descending) {i p : Nat}
    (h : u.parent? i = some p) :
    u.identityAt path i =
      Identity.ofEntry path u.offset (u.entryAt i) (some (u.identityAt path p)) := by
  rw [identityAt, ancestors_of_parent hd h, List.map_append, Identity.ofChain, List.foldl_append]
  rfl

theorem get?_of_lt {i : Nat} (hi : i < u.entries.size) : u.get? i = some (u.entryAt i) := by
  rw [entryAt, get?, Array.getElem?_eq_getElem hi, Option.getD_some]

end DebugUnit

namespace WalkContext

variable (c : WalkContext)

def frameAt (i : Nat) : WalkFrame := ⟨i, c.unit.identityAt c.path i, c.unit.depth i⟩

def kidsAt (i : Nat) : List Nat :=
  if c.unit.depth i < c.options.maxDepth then c.unit.childrenAt i else []

/-- An entry and those below it down to the depth limit. -/
def reach (i : Nat) : List Nat := c.unit.below (c.options.maxDepth - c.unit.depth i) i

variable {c}

theorem mem_kidsAt (hu : c.unit.Built) {i j : Nat} (hj : j ∈ c.kidsAt i) :
    j < c.unit.entries.size ∧ c.unit.parent? j = some i := by
  unfold kidsAt at hj
  split at hj
  · rw [hu.childrenAt_eq, List.mem_filter, List.mem_range, decide_eq_true_eq] at hj
    exact hj
  · cases hj

theorem nodup_kidsAt (hu : c.unit.Built) (i : Nat) : (c.kidsAt i).Nodup := by
  unfold kidsAt
  split
  · rw [hu.childrenAt_eq]
    exact List.nodup_range.filter _
  · exact List.nodup_nil

theorem offspring_frameAt (hu : c.unit.Built) (hd : c.unit.Descending) (i : Nat) :
    c.offspring (c.frameAt i) = (c.kidsAt i).map c.frameAt := by
  have hkid : ∀ j ∈ c.kidsAt i, c.childFrame? (c.frameAt i) j = some (c.frameAt j) := by
    intro j hj
    obtain ⟨hlt, hp⟩ := mem_kidsAt hu hj
    rw [childFrame?, DebugUnit.get?_of_lt hlt, Option.map_some, frameAt, frameAt,
      DebugUnit.depth_of_parent hd hp, DebugUnit.identityAt_of_parent c.path hd hp]
    rfl
  have hmap : (c.kidsAt i).filterMap (c.childFrame? (c.frameAt i)) = (c.kidsAt i).map c.frameAt := by
    rw [← List.filterMap_eq_map]
    exact List.filterMap_congr hkid
  rw [← hmap, offspring]
  cases he : c.unit.get? (c.frameAt i).index with
  | none =>
    have hnone : c.unit.get? i = none := he
    have hkids : c.kidsAt i = [] := by simp [kidsAt, DebugUnit.childrenAt, hnone]
    rw [hkids, List.filterMap_nil]
  | some e =>
    have hsome : c.unit.get? i = some e := he
    have hkids : c.reachable (c.frameAt i) e = c.kidsAt i := by
      simp only [reachable, kidsAt, DebugUnit.childrenAt, hsome, Option.map_some, Option.getD_some]
      rfl
    dsimp only
    rw [hkids]

theorem reach_eq (hu : c.unit.Built) (hd : c.unit.Descending) (i : Nat) :
    c.reach i = i :: (c.kidsAt i).flatMap c.reach := by
  by_cases hi : c.unit.depth i < c.options.maxDepth
  · obtain ⟨n, hn⟩ : ∃ n, c.options.maxDepth - c.unit.depth i = n + 1 :=
      ⟨c.options.maxDepth - c.unit.depth i - 1, by omega⟩
    have hkid : ∀ j ∈ c.kidsAt i, c.reach j = c.unit.below n j := by
      intro j hj
      have hdepth := DebugUnit.depth_of_parent hd (mem_kidsAt hu hj).2
      rw [reach, hdepth]
      congr 1
      omega
    have hkids : c.kidsAt i = c.unit.childrenAt i := if_pos hi
    rw [List.flatMap_congr hkid, hkids, reach, hn, DebugUnit.below]
  · have hzero : c.options.maxDepth - c.unit.depth i = 0 := by omega
    rw [kidsAt, if_neg hi, reach, hzero, DebugUnit.below, List.flatMap_nil]

/-- An entry on the way of a walk, by the unit that is walked and the index in it. -/
abbrev Stop := WalkContext × Nat

namespace Stop

def id (x : Stop) : Identity := x.1.unit.identityAt x.1.path x.2

def visit (s : WalkState) (x : Stop) : WalkState := (x.1.visit (x.1.frameAt x.2) s).1

/-- The entries are told apart by their identities, and the ledger knows none of them. -/
structure Unmet (s : WalkState) (xs : List Stop) : Prop where
  distinct : (xs.map id).Nodup
  unpaired : ∀ x ∈ xs, ∀ q, s.ledger.hasChild x.id q = false
  unregistered : ∀ x ∈ xs, x.id ∉ s.ledger.registry

theorem registry_visit (s : WalkState) (x : Stop) {q : Identity}
    (hq : q ∈ (visit s x).ledger.registry) : q ∈ s.ledger.registry ∨ q = x.id := by
  unfold visit at hq
  cases he : x.1.unit.get? (x.1.frameAt x.2).index with
  | none => exact .inl (by rwa [x.1.visit_of_none s he] at hq)
  | some e =>
    rw [x.1.visit_eq s he] at hq
    simp only [x.1.registry_visitLedger, Std.HashMap.mem_insert, beq_iff_eq] at hq
    exact hq.symm.imp_right Eq.symm

theorem Unmet.visit {s : WalkState} {x : Stop} {xs : List Stop} (h : Unmet s (x :: xs)) :
    Unmet (Stop.visit s x) xs := by
  have hd := h.distinct
  rw [List.map_cons, List.nodup_cons] at hd
  have hne : ∀ y ∈ xs, y.id ≠ x.id := fun y hy he => hd.1 (he ▸ List.mem_map_of_mem hy)
  refine ⟨hd.2, fun y hy q => ?_, fun y hy hreg => ?_⟩
  · rw [Bool.eq_false_iff]
    intro hc
    rcases (x.1.hasChild_visit _ s _ _).1 hc with hold | ⟨hid, -⟩
    · exact absurd hold (by rw [h.unpaired y (List.mem_cons_of_mem x hy)]; exact Bool.false_ne_true)
    · exact hne y hy hid.symm
  · rcases registry_visit s x hreg with hold | hid
    · exact h.unregistered y (List.mem_cons_of_mem x hy) hold
    · exact hne y hy hid

theorem Unmet.foldl_visit {s : WalkState} {xs ys : List Stop} (h : Unmet s (xs ++ ys)) :
    Unmet (xs.foldl Stop.visit s) ys := by
  induction xs generalizing s with
  | nil => exact h
  | cons x xs ih => exact ih h.visit

theorem Unmet.left {s : WalkState} {xs ys : List Stop} (h : Unmet s (xs ++ ys)) : Unmet s xs where
  distinct := by
    have hd := h.distinct
    rw [List.map_append] at hd
    exact List.Nodup.of_append_left hd
  unpaired x hx := h.unpaired x (List.mem_append_left ys hx)
  unregistered x hx := h.unregistered x (List.mem_append_left ys hx)

end Stop

/-- Distinct entries of the unit have distinct identities. -/
def Distinct (c : WalkContext) : Prop :=
  ((List.range c.unit.entries.size).map (c.unit.identityAt c.path)).Nodup

theorem nodup_offspring (hu : c.unit.Built) (hd : c.unit.Descending) (hc : c.Distinct) (i : Nat) :
    ((c.offspring (c.frameAt i)).map (·.id)).Nodup := by
  rw [offspring_frameAt hu hd, List.map_map]
  refine (nodup_kidsAt hu i).map_on ?_
  intro j hj k hk he
  exact List.inj_on_of_nodup_map hc (List.mem_range.2 (mem_kidsAt hu hj).1)
    (List.mem_range.2 (mem_kidsAt hu hk).1) he

theorem visit_frameAt_snd (hu : c.unit.Built) (hd : c.unit.Descending) (hc : c.Distinct) {i : Nat}
    {s : WalkState} (hs : ∀ q, s.ledger.hasChild (c.unit.identityAt c.path i) q = false) :
    (c.visit (c.frameAt i) s).2 = (c.kidsAt i).map c.frameAt := by
  have hnew := s.ledger.newFrames_eq_self (c.frameAt i).id (c.offspring (c.frameAt i))
    (nodup_offspring hu hd hc i) (fun g _ => hs g.id)
  rw [c.visit_snd, hnew, offspring_frameAt hu hd]

/-- The walk visits the entries on the stack with all that is below them, in preorder. -/
theorem visits_of_unmet (hu : c.unit.Built) (hd : c.unit.Descending) (hc : c.Distinct)
    (stack : List Nat) (s : WalkState)
    (h : Stop.Unmet s ((stack.flatMap c.reach).map (Prod.mk c))) :
    c.visits (stack.map c.frameAt) s = (stack.flatMap c.reach).map c.frameAt := by
  -- The stack grows and shrinks, but its load goes down with every visit.
  induction hw : c.load (stack.map c.frameAt) using Nat.strongRecOn generalizing stack s with
  | _ w ih =>
    cases stack with
    | nil => exact c.visits_nil s
    | cons i stack =>
      have hreach : (i :: stack).flatMap c.reach = i :: (c.kidsAt i ++ stack).flatMap c.reach := by
        rw [List.flatMap_cons, reach_eq hu hd, List.cons_append, List.flatMap_append]
      rw [hreach, List.map_cons] at h
      have hkids : (c.visit (c.frameAt i) s).2 = (c.kidsAt i).map c.frameAt :=
        visit_frameAt_snd hu hd hc (h.unpaired (c, i) (List.mem_cons_self ..))
      rw [List.map_cons] at hw
      have hlt : c.load ((c.kidsAt i ++ stack).map c.frameAt) < w := by
        rw [← hw, load, List.map_append, ← hkids, load_append]
        exact Nat.add_lt_add_right (c.load_visit _ s) _
      rw [hreach, List.map_cons, List.map_cons, visits_cons, hkids, ← List.map_append]
      exact congrArg (List.cons _) (ih _ hlt _ _ h.visit rfl)

end WalkContext

end ElfFacts
