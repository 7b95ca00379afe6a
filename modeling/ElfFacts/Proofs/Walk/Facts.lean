import ElfFacts.Proofs.Walk.Visit

/-!
# Telling the facts of a visit apart

The tag of an entry starts in the same way for all entries, so the fact that an entry is there and
the relations between entries can be found among all facts by their predicates and the number of
their arguments. What remains of a visit after such a choice is said here.
-/
namespace ElfFacts

namespace Tag

def opening : List Char := "dw_tag_".toList

/-- Normalized tags start like this, whatever the entry is. -/
def Regular (tag : String) : Prop := opening <+: tag.toList

instance (tag : String) : Decidable (Regular tag) := inferInstanceAs (Decidable (_ <+: _))

theorem Regular.append {tag : String} (h : Regular tag) (suffix : String) :
    Regular (tag ++ suffix) := by
  rw [Regular, String.toList_append]
  exact h.trans (List.prefix_append _ _)

end Tag

namespace Fact

/-- Facts that say that an entry is there: they have the tag of an entry for a predicate, and the
path and the identity for arguments. -/
def isExistence (f : Fact) : Bool :=
  decide (Tag.Regular f.predicate) && f.arguments.length == 2

def isRelation (f : Fact) : Bool := f.predicate == "has_child"

theorem isExistence_of_regular {f : Fact} (h : Tag.Regular f.predicate) :
    f.isExistence = (f.arguments.length == 2) := by
  rw [isExistence, decide_eq_true h, Bool.true_and]

theorem isExistence_of_not_regular {f : Fact} (h : ¬ Tag.Regular f.predicate) :
    f.isExistence = false := by
  rw [isExistence, decide_eq_false h, Bool.false_and]

theorem isRelation_of_regular {f : Fact} (h : Tag.Regular f.predicate) : f.isRelation = false := by
  rw [isRelation, beq_eq_false_iff_ne]
  intro he
  rw [he] at h
  exact absurd h (by decide)

end Fact

namespace WalkContext

variable (c : WalkContext) (f : WalkFrame) (e : DebugEntry)

def IsAttributeOf (tag : String) (x : Fact) : Prop :=
  (∃ suffix, x.predicate = tag ++ suffix) ∧ x.arguments.length = 3

theorem isAttributeOf_typePart (tag : String) :
    ∀ x ∈ (c.typePart f e tag).1, IsAttributeOf tag x := by
  intro x hx
  unfold typePart at hx
  split at hx
  · unfold typeFacts at hx
    dsimp only at hx
    split at hx
    · rcases List.mem_cons.1 hx with rfl | hx
      · exact ⟨⟨_, rfl⟩, rfl⟩
      · obtain ⟨n, -, rfl⟩ := List.mem_map.1 hx
        exact ⟨⟨_, rfl⟩, rfl⟩
    · rw [List.mem_singleton] at hx
      exact hx ▸ ⟨⟨_, rfl⟩, rfl⟩
    · rw [List.mem_singleton] at hx
      exact hx ▸ ⟨⟨_, rfl⟩, rfl⟩
    · cases hx
    · cases hx
  · cases hx

theorem isAttributeOf_attributeFacts (tag : String) :
    ∀ x ∈ c.attributeFacts f e tag (c.typePart f e tag).1, IsAttributeOf tag x := by
  intro x hx
  simp only [attributeFacts, List.mem_append, List.mem_map] at hx
  rcases hx with (((⟨n, -, rfl⟩ | hx) | ⟨n, -, rfl⟩) | ⟨n, -, rfl⟩) | ⟨n, -, rfl⟩
  · exact ⟨⟨_, rfl⟩, rfl⟩
  · exact c.isAttributeOf_typePart f e tag x hx
  · exact ⟨⟨_, rfl⟩, rfl⟩
  · exact ⟨⟨_, rfl⟩, rfl⟩
  · exact ⟨⟨_, rfl⟩, rfl⟩

theorem filter_attributeFacts {tag : String} (ht : Tag.Regular tag) (p : Fact → Bool)
    (hp : ∀ x : Fact, Tag.Regular x.predicate → x.arguments.length = 3 → p x = false) :
    (c.attributeFacts f e tag (c.typePart f e tag).1).filter p = [] := by
  rw [List.filter_eq_nil_iff]
  intro x hx
  obtain ⟨⟨suffix, hs⟩, harity⟩ := c.isAttributeOf_attributeFacts f e tag x hx
  rw [hp x (hs ▸ ht.append suffix) harity]
  exact Bool.false_ne_true

theorem predicate_unitFacts (l : Ledger) :
    ∀ x ∈ c.unitFacts e l, x.predicate = "generator_version" ∨ x.predicate = "language" := by
  intro x hx
  rcases List.mem_append.1 hx with hx | hx
  · split at hx
    · cases hx
    · exact .inl (List.mem_singleton.1 hx ▸ rfl)
  · obtain ⟨n, -, rfl⟩ := List.mem_map.1 hx
    exact .inr rfl

theorem filter_unitFacts (l : Ledger) (p : Fact → Bool)
    (hp : ∀ x : Fact, x.predicate = "generator_version" ∨ x.predicate = "language" → p x = false) :
    (c.unitFacts e l).filter p = [] := by
  rw [List.filter_eq_nil_iff]
  intro x hx
  rw [hp x (c.predicate_unitFacts e l x hx)]
  exact Bool.false_ne_true

theorem filter_isExistence_relationFacts (tag : String) (n : Nat) (frames : List WalkFrame) :
    (c.relationFacts f tag n frames).filter Fact.isExistence = [] := by
  induction frames generalizing n with
  | nil => rfl
  | cons g frames ih =>
    rw [relationFacts, List.filter_append, ih, List.append_nil, childFacts, List.filter_append]
    have hr (p q : Identity) : (relationFact p q).isExistence = false :=
      Fact.isExistence_of_not_regular (by decide : ¬ Tag.Regular "has_child")
    have ho (m : Nat) (p q : Identity) : (parameterFact c.path p q m).isExistence = false :=
      Bool.and_false _
    split <;> split <;> simp [hr, ho]

theorem filter_isRelation_relationFacts (tag : String) (n : Nat) (frames : List WalkFrame) :
    (c.relationFacts f tag n frames).filter Fact.isRelation =
      (frames.filter fun g => c.options.allows tag || c.options.allows (c.tagAt g.index)).map
        fun g => relationFact f.id g.id := by
  induction frames generalizing n with
  | nil => rfl
  | cons g frames ih =>
    have hr (p q : Identity) : (relationFact p q).isRelation = true := rfl
    have ho (m : Nat) (p q : Identity) : (parameterFact c.path p q m).isRelation = false := rfl
    rw [relationFacts, List.filter_append, ih, childFacts, List.filter_append, List.filter_cons]
    split <;> split <;> simp [hr, ho]

theorem filter_isExistence_visitFacts (l : Ledger) (ht : Tag.Regular (Tag.normalize e.tag)) :
    (c.visitFacts f e l).filter Fact.isExistence =
      if c.options.allows (Tag.normalize e.tag)
      then [existenceFact c.path (Tag.normalize e.tag) f.id] else [] := by
  have hself : (existenceFact c.path (Tag.normalize e.tag) f.id).isExistence = true :=
    Fact.isExistence_of_regular ht
  have hattr : (c.attributeFacts f e (Tag.normalize e.tag)
      (c.typePart f e (Tag.normalize e.tag)).1).filter Fact.isExistence = [] := by
    apply c.filter_attributeFacts f e ht
    intro x hx harity
    rw [Fact.isExistence_of_regular hx, harity]
    rfl
  have hunit : (c.unitFacts e l).filter Fact.isExistence = [] := by
    apply c.filter_unitFacts e l
    rintro x (hx | hx) <;> apply Fact.isExistence_of_not_regular <;> rw [hx] <;> decide
  simp only [visitFacts, List.filter_append, filter_isExistence_relationFacts, List.append_nil]
  split <;> split <;> simp [hself, hattr, hunit]

theorem filter_isRelation_visitFacts (l : Ledger) (ht : Tag.Regular (Tag.normalize e.tag)) :
    (c.visitFacts f e l).filter Fact.isRelation =
      ((l.newFrames f.id (c.offspring f)).filter fun g =>
        c.options.allows (Tag.normalize e.tag) || c.options.allows (c.tagAt g.index)).map
        fun g => relationFact f.id g.id := by
  have hself : (existenceFact c.path (Tag.normalize e.tag) f.id).isRelation = false :=
    Fact.isRelation_of_regular ht
  have hattr : (c.attributeFacts f e (Tag.normalize e.tag)
      (c.typePart f e (Tag.normalize e.tag)).1).filter Fact.isRelation = [] :=
    c.filter_attributeFacts f e ht _ fun _ hx _ => Fact.isRelation_of_regular hx
  have hunit : (c.unitFacts e l).filter Fact.isRelation = [] := by
    apply c.filter_unitFacts e l
    rintro x (hx | hx) <;> simp only [Fact.isRelation, hx] <;> decide
  simp only [visitFacts, List.filter_append, filter_isRelation_relationFacts]
  split <;> split <;> simp [*]

end WalkContext

end ElfFacts
