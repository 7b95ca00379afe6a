import ElfFacts.Proofs.Walk.Visit
import Mathlib.Data.List.Basic

/-!
# The stack and the recursion

The walk with a stack of pending entries is the recursive traversal in preorder: a stack is worked
off frame by frame, each with its whole subtree before the next. This holds from any ledger, so the
pairs that one subtree records are known to the following ones in both.
-/
namespace ElfFacts

namespace WalkContext

/-- The frames in the order in which the walk visits them. -/
def visits (c : WalkContext) : List WalkFrame → WalkState → List WalkFrame
  | [], _ => []
  | f :: rest, s => f :: visits c ((c.visit f s).2 ++ rest) (c.visit f s).1
termination_by frames => c.load frames
decreasing_by
  rw [load_append, load]
  exact Nat.add_lt_add_right (c.load_visit f s) (c.load rest)

@[simp] theorem visits_nil (c : WalkContext) (s : WalkState) : c.visits [] s = [] := by
  rw [visits]

theorem visits_cons (c : WalkContext) (f : WalkFrame) (rest : List WalkFrame) (s : WalkState) :
    c.visits (f :: rest) s = f :: c.visits ((c.visit f s).2 ++ rest) (c.visit f s).1 := by
  rw [visits]

theorem run_eq_foldl_visits (c : WalkContext) (frames : List WalkFrame) (s : WalkState) :
    c.run frames s = (c.visits frames s).foldl (fun s f => (c.visit f s).1) s := by
  fun_induction c.run frames s with
  | case1 s => rw [visits_nil, List.foldl_nil]
  | case2 f rest s ih => rw [visits_cons, List.foldl_cons, ih]

/-- The upper part of a stack is worked off before the lower part is looked at. -/
theorem run_append (c : WalkContext) (frames lower : List WalkFrame) (s : WalkState) :
    c.run (frames ++ lower) s = c.run lower (c.run frames s) := by
  fun_induction c.run frames s with
  | case1 s => rw [List.nil_append]
  | case2 f rest s ih => rw [List.cons_append, run_cons, ← List.append_assoc, ih]

theorem run_eq_foldl (c : WalkContext) (frames : List WalkFrame) (s : WalkState) :
    c.run frames s = frames.foldl (fun s f => c.run [f] s) s := by
  induction frames generalizing s with
  | nil => rw [run_nil, List.foldl_nil]
  | cons f rest ih =>
    have hsplit : f :: rest = [f] ++ rest := rfl
    rw [hsplit, run_append, ih]
    rfl

theorem preorder_eq_visit (c : WalkContext) (f : WalkFrame) (s : WalkState) :
    c.preorder f s = (c.visit f s).2.foldl (fun s g => c.preorder g s) (c.visit f s).1 := by
  rw [preorder, List.foldl_subtype (g := fun s g => c.preorder g s) (fun _ _ _ => rfl),
    List.unattach_attach]

theorem run_singleton (c : WalkContext) (f : WalkFrame) (s : WalkState) :
    c.run [f] s = c.preorder f s := by
  induction hw : c.weight f using Nat.strongRecOn generalizing f s with
  | _ w ih =>
    rw [run_cons, List.append_nil, run_eq_foldl, preorder_eq_visit]
    apply List.foldl_ext
    intro t g hg
    have hlt : c.weight g < w := by
      rw [← hw]
      exact Nat.lt_of_le_of_lt (c.weight_le_load hg) (c.load_visit f s)
    exact ih _ hlt g t rfl

end WalkContext

namespace Corpus

/-- The walk below an entry is the traversal in preorder: it visits the entry and then, in order and
each one on what the one before has left, the subtrees of exactly the children whose pair with the
entry was not recorded before. A visit adds the facts of its entry, counts it, and records it with
all the pairs of it and the children within reach; where there is no entry it does nothing. -/
theorem walk_eq_preorder (b : Corpus) (o : WalkOptions) (unitIndex root : Nat)
    (parent : Option Identity) (s : WalkState) :
    (∀ (c : WalkContext) (f : WalkFrame) (t : WalkState),
      (c.visit f t).1 = (match c.unit.get? f.index with
        | none => t
        | some e =>
          { ledger := c.visitLedger f e t.ledger
            stats := c.visitStats f e t.ledger t.stats
            facts := t.facts ++ (c.visitFacts f e t.ledger).toArray }) ∧
      (∀ p q, (c.visit f t).1.ledger.hasChild p q ↔
        t.ledger.hasChild p q ∨ f.id = p ∧ ∃ g ∈ c.offspring f, g.id = q) ∧
      c.preorder f t = (t.ledger.newFrames f.id (c.offspring f)).foldl
        (fun t g => c.preorder g t) (c.visit f t).1) ∧
    b.walk o unitIndex root parent s =
      match b.units[unitIndex]? with
      | none => s
      | some unit =>
        let c : WalkContext := { options := o, path := b.pathText, unitIndex, unit }
        match unit.get? root with
        | none => s
        | some e => c.preorder ⟨root, c.idOf e parent, 0⟩ s := by
  constructor
  · intro c f t
    refine ⟨?_, c.hasChild_visit f t, by rw [c.preorder_eq_visit, c.visit_snd]⟩
    cases he : c.unit.get? f.index with
    | none => rw [c.visit_of_none t he]
    | some e => rw [c.visit_eq t he]
  · unfold walk
    cases b.units[unitIndex]? with
    | none => rfl
    | some unit =>
      dsimp only
      cases unit.get? root with
      | none => rfl
      | some e => exact WalkContext.run_singleton _ _ s

end Corpus

end ElfFacts
