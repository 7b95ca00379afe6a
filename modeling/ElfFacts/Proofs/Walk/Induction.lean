import ElfFacts.Proofs.Walk.Sites
import Mathlib.Data.List.Basic

/-!
# Induction along walks

A walk is nothing but visits, one after the other, of entries of the units of a binary. What every
visit keeps true is therefore true after a walk if it was before.
-/
namespace ElfFacts

variable {P : WalkState → Prop} {s : WalkState}

theorem WalkContext.run_induction {c : WalkContext} (hvisit : ∀ f s, P s → P (c.visit f s).1)
    (frames : List WalkFrame) (hs : P s) : P (c.run frames s) := by
  fun_induction c.run frames s with
  | case1 s => exact hs
  | case2 f rest s ih => exact ih (hvisit f s hs)

namespace Corpus

variable {b : Corpus}

theorem walk_induction
    (hvisit : ∀ c : WalkContext, c.unit ∈ b.units → ∀ f s, P s → P (c.visit f s).1)
    (o : WalkOptions) (unitIndex root : Nat) (parent : Option Identity) (hs : P s) :
    P (b.walk o unitIndex root parent s) := by
  unfold walk
  cases hu : b.units[unitIndex]? with
  | none => exact hs
  | some u =>
    cases he : u.get? root with
    | none => simpa only [he] using hs
    | some e =>
      simp only [he]
      exact WalkContext.run_induction (hvisit _ (Array.mem_of_getElem? hu)) _ hs

theorem walkAll_induction
    (hvisit : ∀ c : WalkContext, c.unit ∈ b.units → ∀ f s, P s → P (c.visit f s).1)
    (o : WalkOptions) (hs : P s) : P (b.walkAll o s) := by
  refine List.foldlRecOn _ _ hs fun s hs unitIndex _ => ?_
  unfold walkUnit
  split
  · exact hs
  · exact List.foldlRecOn _ _ hs fun s hs root _ => walk_induction hvisit o unitIndex root none hs

theorem tag_of_sites {Q : String → Prop} (h : ∀ t ∈ b.sites, Q t.tag) {u : DebugUnit}
    (hu : u ∈ b.units) {i : Nat} {e : DebugEntry} (he : u.get? i = some e) :
    Q (Tag.normalize e.tag) := by
  have hi : i < u.entries.size := (Array.getElem?_eq_some_iff.1 he).1
  have htag := h ⟨u, i⟩ (mem_sites.2 ⟨hu, hi⟩)
  simpa only [Site.tag, he, Option.map_some, Option.getD_some] using htag

end Corpus

end ElfFacts
