import ElfFacts.Proofs.Debug.Levels
import ElfFacts.Proofs.Walk.Parameters
import ElfFacts.Proofs.Walk.Preorder
import Mathlib.Data.List.Flatten
import Mathlib.Logic.Function.Iterate

/-!
# How long a walk takes

Every step of the walk takes one entry off the stack, visits it and puts its new children there. What
is visited lies on a descent from the starting entry, whatever the ledger is, and new identities do
not make a descent longer than the depth limit. So the number of steps is bounded by what can be met
on the way down.
-/
namespace ElfFacts

namespace WalkContext

variable {c : WalkContext}

def step (c : WalkContext) : List WalkFrame × WalkState → List WalkFrame × WalkState
  | ([], s) => ([], s)
  | (f :: rest, s) => ((c.visit f s).2 ++ rest, (c.visit f s).1)

theorem step_cons (f : WalkFrame) (rest : List WalkFrame) (s : WalkState) :
    c.step (f :: rest, s) = ((c.visit f s).2 ++ rest, (c.visit f s).1) := rfl

theorem iterate_step (frames : List WalkFrame) (s : WalkState) :
    c.step^[(c.visits frames s).length] (frames, s) = ([], c.run frames s) := by
  fun_induction c.visits frames s with
  | case1 s => rw [run_nil]; rfl
  | case2 f rest s ih =>
    rw [List.length_cons, Function.iterate_succ_apply, step_cons, ih, run_cons]

theorem iterate_step_ne_nil (frames : List WalkFrame) (s : WalkState) {n : Nat}
    (hn : n < (c.visits frames s).length) : (c.step^[n] (frames, s)).1 ≠ [] := by
  fun_induction c.visits frames s generalizing n with
  | case1 s => cases hn
  | case2 f rest s ih =>
    cases n with
    | zero => exact List.cons_ne_nil f rest
    | succ n =>
      rw [Function.iterate_succ_apply, step_cons]
      exact ih (Nat.lt_of_succ_lt_succ hn)

/-- The entries that can be met from a frame on. -/
def descent (c : WalkContext) (f : WalkFrame) : List Nat :=
  c.unit.below (c.options.maxDepth - f.depth) f.index

theorem descent_sublist {f : WalkFrame} {n : Nat} (hn : c.options.maxDepth - (f.depth + 1) = n)
    (kids : List Nat) :
    ((kids.filterMap (c.childFrame? f)).flatMap c.descent).Sublist (kids.flatMap (c.unit.below n)) := by
  induction kids with
  | nil => exact .slnil
  | cons i kids ih =>
    rw [List.flatMap_cons]
    cases hg : c.childFrame? f i with
    | none =>
      rw [List.filterMap_cons_none hg]
      exact ih.trans (List.sublist_append_right _ _)
    | some g =>
      obtain ⟨e, -, rfl⟩ := Option.map_eq_some_iff.1 hg
      rw [List.filterMap_cons_some hg, List.flatMap_cons, descent, hn]
      exact ih.append_left _

theorem descent_offspring (f : WalkFrame) :
    (f.index :: (c.offspring f).flatMap c.descent).Sublist (c.descent f) := by
  have hself : [f.index].Sublist (c.descent f) := by
    rw [descent]
    cases c.options.maxDepth - f.depth with
    | zero => exact .refl _
    | succ n => exact (List.nil_sublist _).cons_cons f.index
  unfold offspring
  split
  · exact hself
  · next e he =>
    have hkids : c.unit.childrenAt f.index = e.children.toList := by
      rw [DebugUnit.childrenAt, he, Option.map_some, Option.getD_some]
    unfold reachable
    split
    · next hdepth =>
      obtain ⟨n, hn⟩ : ∃ n, c.options.maxDepth - f.depth = n + 1 :=
        ⟨c.options.maxDepth - f.depth - 1, by omega⟩
      have hdescent : c.descent f = f.index :: e.children.toList.flatMap (c.unit.below n) := by
        rw [descent, hn, DebugUnit.below, hkids]
      rw [hdescent]
      exact (descent_sublist (by omega) _).cons_cons f.index
    · exact hself

/-- Whatever the ledger is, what is visited can be met on a descent, in this order. -/
theorem visits_sublist (frames : List WalkFrame) (s : WalkState) :
    ((c.visits frames s).map (·.index)).Sublist (frames.flatMap c.descent) := by
  fun_induction c.visits frames s with
  | case1 s => exact .slnil
  | case2 f rest s ih =>
    have hnew : ((c.visit f s).2.flatMap c.descent).Sublist ((c.offspring f).flatMap c.descent) := by
      rw [visit_snd]
      exact (s.ledger.newFrames_sublist f.id (c.offspring f)).flatMap c.descent
    rw [List.flatMap_append] at ih
    rw [List.map_cons, List.flatMap_cons]
    refine (ih.cons_cons f.index).trans ?_
    rw [← List.cons_append]
    exact ((hnew.cons_cons f.index).trans (descent_offspring f)).append (.refl _)

theorem length_visits_le {f : WalkFrame} (hdepth : f.depth = 0) (hu : c.unit.Built)
    (hf : f.index < c.unit.entries.size) (s : WalkState) :
    (c.visits [f] s).length ≤ (c.options.maxDepth + 1) * c.unit.entries.size ∧
      (c.unit.Descending → (c.visits [f] s).length ≤ c.unit.entries.size) := by
  have hlength : (c.visits [f] s).length ≤ (c.unit.below c.options.maxDepth f.index).length := by
    have hsub := (visits_sublist (c := c) [f] s).length_le
    rwa [List.length_map, List.flatMap_singleton, descent, hdepth, Nat.sub_zero] at hsub
  refine ⟨hlength.trans (DebugUnit.length_below_le hu hf _), fun hd => hlength.trans ?_⟩
  exact DebugUnit.length_le_size (DebugUnit.nodup_below hu hd _ _)
    fun _ hj => DebugUnit.lt_size_of_mem_below hu hf hj

end WalkContext

namespace Corpus

/-- From any entry of a unit and any ledger, the walk empties its stack: for each entry it takes no
more steps than there are depths, and one at most if no entry of the unit is its own parent. -/
theorem walk_ends {b : Corpus} {unitIndex : Nat} {u : DebugUnit} (hunit : b.units[unitIndex]? = some u)
    (hu : u.Built) {root : Nat} {e : DebugEntry} (he : u.get? root = some e) (o : WalkOptions)
    (parent : Option Identity) (s : WalkState) :
    let c := b.context o (u, unitIndex)
    let start : List WalkFrame × WalkState := ([⟨root, c.idOf e parent, 0⟩], s)
    ∃ n, c.step^[n] start = ([], b.walk o unitIndex root parent s) ∧
      (∀ k < n, (c.step^[k] start).1 ≠ []) ∧
      n ≤ (o.maxDepth + 1) * u.entries.size ∧
      ((∀ i, u.parent? i ≠ some i) → n ≤ u.entries.size) := by
  intro c start
  have hwalk : b.walk o unitIndex root parent s = c.run start.1 s := by
    unfold walk
    rw [hunit]
    simp only [he]
    rfl
  have hroot : root < u.entries.size := (Array.getElem?_eq_some_iff.1 he).1
  obtain ⟨hdeep, hflat⟩ :=
    WalkContext.length_visits_le (c := c) (f := ⟨root, c.idOf e parent, 0⟩) rfl hu hroot s
  refine ⟨(c.visits start.1 s).length, ?_, ?_, hdeep, fun hself => hflat (hu.descending hself)⟩
  · rw [hwalk]
    exact WalkContext.iterate_step _ s
  · exact fun k hk => WalkContext.iterate_step_ne_nil _ s hk

/-- A block that is its own child, and a variable in it. -/
def ring : DebugUnit :=
  ((DebugUnit.empty 0).push (some 0) 11 "DW_TAG_lexical_block" []).push (some 0) 20
    "DW_TAG_variable" []

def ringAlone : Corpus where
  path := Path.ofString "/a"
  units := #[ring]

theorem built_ring : ring.Built :=
  ((DebugUnit.Built.empty 0).push (some 0) 11 "DW_TAG_lexical_block" [] rfl).push (some 0) 20
    "DW_TAG_variable" [] rfl

/-- Two depths of the two entries of the ring; and four entries none of which is its own child. -/
theorem walk_ends_ring :
    (let c := ringAlone.context nothingListed (ring, 0)
      ∃ n ≤ 4, c.step^[n] ([⟨0, c.idOf (ring.entryAt 0) none, 0⟩], {}) =
        ([], ringAlone.walk nothingListed 0 0 none {})) ∧
    let c := blockInside.context nothingListed (interleaved, 0)
    ∃ n ≤ 4, c.step^[n] ([⟨0, c.idOf (interleaved.entryAt 0) none, 0⟩], {}) =
      ([], blockInside.walk nothingListed 0 0 none {}) := by
  constructor
  · have hunit : ringAlone.units[0]? = some ring := rfl
    have hroot : ring.get? 0 = some (ring.entryAt 0) := rfl
    obtain ⟨n, hn, -, hle, -⟩ := walk_ends hunit built_ring hroot nothingListed none {}
    exact ⟨n, hle, hn⟩
  · have hunit : blockInside.units[0]? = some interleaved := rfl
    have hroot : interleaved.get? 0 = some (interleaved.entryAt 0) := rfl
    have hself : ∀ i, interleaved.parent? i ≠ some i :=
      fun i hi => Nat.lt_irrefl i (descending_interleaved i i hi)
    obtain ⟨n, hn, -, -, hle⟩ := walk_ends hunit built_interleaved hroot nothingListed none {}
    exact ⟨n, hle hself, hn⟩

end Corpus

end ElfFacts
