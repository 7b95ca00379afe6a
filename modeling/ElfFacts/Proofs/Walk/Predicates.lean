import ElfFacts.Proofs.Fact.Lines
import ElfFacts.Proofs.Walk.Induction
import ElfFacts.Proofs.Walk.Visit

/-!
# The predicates of a walk

Every fact of a walk has a fixed predicate or one that begins with the tag of an entry. If the tags
are legible, so are the predicates.
-/
namespace ElfFacts

namespace WalkContext

variable {c : WalkContext} {f : WalkFrame} {e : DebugEntry} {tag : String}

theorem legible_relationFacts (n : Nat) (frames : List WalkFrame) :
    ∀ x ∈ c.relationFacts f tag n frames, Fact.Legible x.predicate := by
  induction frames generalizing n with
  | nil => exact fun x hx => (List.not_mem_nil hx).elim
  | cons g frames ih =>
    intro x hx
    rw [relationFacts, childFacts, List.mem_append, List.mem_append] at hx
    rcases hx with (hx | hx) | hx
    · split at hx
      · rw [List.mem_singleton.1 hx]
        exact (by decide : Fact.Legible "dw_tag_formal_parameter_order")
      · cases hx
    · split at hx
      · rw [List.mem_singleton.1 hx]
        exact (by decide : Fact.Legible "has_child")
      · cases hx
    · exact ih _ x hx

theorem legible_typePart (ht : Fact.Legible tag) :
    ∀ x ∈ (c.typePart f e tag).1, Fact.Legible x.predicate := by
  intro x hx
  unfold typePart at hx
  split at hx
  · unfold typeFacts at hx
    dsimp only at hx
    split at hx
    · rcases List.mem_cons.1 hx with rfl | hx
      · exact ht.append (by decide)
      · obtain ⟨n, -, rfl⟩ := List.mem_map.1 hx
        exact ht.append (by decide)
    · rw [List.mem_singleton.1 hx]
      exact ht.append (by decide)
    · rw [List.mem_singleton.1 hx]
      exact ht.append (by decide)
    · cases hx
    · cases hx
  · cases hx

theorem legible_attributeFacts (ht : Fact.Legible tag) :
    ∀ x ∈ c.attributeFacts f e tag (c.typePart f e tag).1, Fact.Legible x.predicate := by
  intro x hx
  simp only [attributeFacts, List.mem_append, List.mem_map] at hx
  rcases hx with (((⟨n, -, rfl⟩ | hx) | ⟨n, -, rfl⟩) | ⟨n, -, rfl⟩) | ⟨n, -, rfl⟩
  · exact ht.append (by decide)
  · exact legible_typePart ht x hx
  · exact ht.append (by decide)
  · exact ht.append (by decide)
  · exact ht.append (by decide)

theorem legible_unitFacts (l : Ledger) : ∀ x ∈ c.unitFacts e l, Fact.Legible x.predicate := by
  intro x hx
  rcases List.mem_append.1 hx with hx | hx
  · split at hx
    · cases hx
    · rw [List.mem_singleton.1 hx]
      exact (by decide : Fact.Legible "generator_version")
  · obtain ⟨n, -, rfl⟩ := List.mem_map.1 hx
    exact (by decide : Fact.Legible "language")

theorem legible_visitFacts (ht : Fact.Legible (Tag.normalize e.tag)) (l : Ledger) :
    ∀ x ∈ c.visitFacts f e l, Fact.Legible x.predicate := by
  intro x hx
  simp only [visitFacts, List.mem_append] at hx
  rcases hx with ((hx | hx) | hx) | hx
  · split at hx
    · rw [List.mem_singleton.1 hx]
      exact ht
    · cases hx
  · exact legible_relationFacts 0 _ x hx
  · split at hx
    · exact legible_attributeFacts ht x hx
    · cases hx
  · split at hx
    · exact legible_unitFacts l x hx
    · cases hx

end WalkContext

def WalkState.Legible (s : WalkState) : Prop := ∀ x ∈ s.facts.toList, Fact.Legible x.predicate

theorem WalkState.Legible.visit {c : WalkContext} {s : WalkState} (f : WalkFrame) (hs : s.Legible)
    (ht : ∀ i e, c.unit.get? i = some e → Fact.Legible (Tag.normalize e.tag)) :
    (c.visit f s).1.Legible := by
  cases he : c.unit.get? f.index with
  | none => rwa [c.visit_of_none s he]
  | some e =>
    rw [c.visit_eq s he]
    intro x hx
    simp only [Array.toList_append, List.mem_append] at hx
    rcases hx with hx | hx
    · exact hs x hx
    · exact WalkContext.legible_visitFacts (ht _ _ he) _ x hx

theorem Corpus.legible_walkAll {b : Corpus} (ht : ∀ t ∈ b.sites, Fact.Legible t.tag) (o : WalkOptions)
    (l : Ledger) : (b.walkAll o { ledger := l }).Legible :=
  walkAll_induction (fun _ hu f _ hs => hs.visit f fun _ _ he => tag_of_sites ht hu he) o
    fun _ hx => (List.not_mem_nil hx).elim

end ElfFacts
