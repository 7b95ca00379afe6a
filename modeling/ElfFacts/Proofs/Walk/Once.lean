import ElfFacts.Proofs.Walk.Facts
import ElfFacts.Proofs.Walk.Induction

/-!
# Every pair is reported once

Walks that go on from one ledger never report a pair of a parent and a child twice, whatever the
entries, the options and the starting points are. A visit reports pairs that the ledger does not
have yet, each of them once, and records them; `Once` is what this keeps true along a run.
-/
namespace ElfFacts

inductive PairKind where
  | relation
  | parameter
  deriving DecidableEq, Repr

namespace PairKind

def predicate : PairKind → String
  | .relation => "has_child"
  | .parameter => "dw_tag_formal_parameter_order"

def ofArguments? : PairKind → List Argument → Option (Identity × Identity)
  | .relation, [.text p, .text q] => some (⟨p⟩, ⟨q⟩)
  | .parameter, [_, .text p, .text q, _] => some (⟨p⟩, ⟨q⟩)
  | _, _ => none

/-- The parent and the child that a fact is about, if the fact is of the kind. -/
def pair? (k : PairKind) (f : Fact) : Option (Identity × Identity) :=
  if f.predicate = k.predicate then k.ofArguments? f.arguments else none

variable (k : PairKind)

def pairs (facts : List Fact) : List (Identity × Identity) := facts.filterMap k.pair?

theorem pairs_append (fs gs : List Fact) : k.pairs (fs ++ gs) = k.pairs fs ++ k.pairs gs :=
  List.filterMap_append

theorem pairs_eq_nil {facts : List Fact} (h : ∀ f ∈ facts, k.pair? f = none) : k.pairs facts = [] :=
  List.filterMap_eq_nil_iff.2 h

theorem pair?_of_predicate_ne {f : Fact} (h : f.predicate ≠ k.predicate) : k.pair? f = none :=
  if_neg h

theorem pair?_of_regular {f : Fact} (h : Tag.Regular f.predicate) (hn : f.arguments.length ≠ 4) :
    k.pair? f = none := by
  cases k with
  | relation =>
    apply pair?_of_predicate_ne
    intro he
    rw [he] at h
    exact absurd h (by decide)
  | parameter =>
    have hargs : PairKind.ofArguments? .parameter f.arguments = none := by
      unfold ofArguments?
      split
      · next hk _ => cases hk
      · next ha =>
        rw [ha] at hn
        exact absurd rfl hn
      · rfl
    rw [pair?, hargs, ite_self]

theorem pair?_relationFact (p q : Identity) :
    k.pair? (WalkContext.relationFact p q) = if k = .relation then some (p, q) else none := by
  cases k <;> rfl

theorem pair?_parameterFact (path : String) (p q : Identity) (n : Nat) :
    k.pair? (WalkContext.parameterFact path p q n) =
      if k = .parameter then some (p, q) else none := by
  cases k <;> rfl

end PairKind

namespace Ledger

/-- New frames are those that had not been recorded, and no two of them are alike. -/
theorem newFrames_new (l : Ledger) (p : Identity) (frames : List WalkFrame) :
    ((l.newFrames p frames).map (·.id)).Nodup ∧
      ∀ g ∈ l.newFrames p frames, l.hasChild p g.id = false := by
  induction frames generalizing l with
  | nil => exact ⟨List.nodup_nil, fun g hg => (List.not_mem_nil hg).elim⟩
  | cons g frames ih =>
    rw [newFrames]
    split
    · exact ih l
    · next hg =>
      obtain ⟨hnodup, hnew⟩ := ih (l.addChild p g.id)
      -- What is new after `g` has been recorded is new before, and is not `g`.
      have hrest : ∀ h ∈ (l.addChild p g.id).newFrames p frames,
          g.id ≠ h.id ∧ l.hasChild p h.id = false := by
        intro h hh
        have hadded := hnew h hh
        rw [hasChild_addChild, Bool.or_eq_false_iff, beq_eq_false_iff_ne] at hadded
        exact ⟨fun he => hadded.1 (he ▸ rfl), hadded.2⟩
      constructor
      · rw [List.map_cons, List.nodup_cons]
        refine ⟨fun hm => ?_, hnodup⟩
        obtain ⟨h, hh, he⟩ := List.mem_map.1 hm
        exact (hrest h hh).1 he.symm
      · intro h hh
        rcases List.mem_cons.1 hh with rfl | hh
        · exact Bool.eq_false_iff.2 hg
        · exact (hrest h hh).2

end Ledger

namespace WalkContext

variable (c : WalkContext) (k : PairKind)

theorem pairs_relationFacts (f : WalkFrame) (tag : String) (n : Nat) (frames : List WalkFrame) :
    (k.pairs (c.relationFacts f tag n frames)).Sublist (frames.map fun g => (f.id, g.id)) := by
  induction frames generalizing n with
  | nil => exact List.Sublist.slnil
  | cons g frames ih =>
    have hchild : (k.pairs (c.childFacts f tag (c.tagAt g.index) g.id n)).Sublist [(f.id, g.id)] := by
      rw [childFacts, k.pairs_append]
      cases k <;> split <;> split <;>
        simp [PairKind.pairs, PairKind.pair?_relationFact, PairKind.pair?_parameterFact]
    rw [relationFacts, k.pairs_append]
    exact hchild.append (ih _)

/-- A visit reports pairs of the entry with new children, each of them once. -/
theorem pairs_visitFacts (f : WalkFrame) (e : DebugEntry) (l : Ledger)
    (ht : Tag.Regular (Tag.normalize e.tag)) :
    (k.pairs (c.visitFacts f e l)).Sublist
      ((l.newFrames f.id (c.offspring f)).map fun g => (f.id, g.id)) := by
  have hself : k.pairs (if c.options.allows (Tag.normalize e.tag) then
      [existenceFact c.path (Tag.normalize e.tag) f.id] else []) = [] := by
    apply k.pairs_eq_nil
    intro x hx
    split at hx
    · obtain rfl := List.mem_singleton.1 hx
      exact k.pair?_of_regular ht (by simp [existenceFact])
    · cases hx
  have hattr : k.pairs (if c.options.allows (Tag.normalize e.tag) then
      c.attributeFacts f e (Tag.normalize e.tag) (c.typePart f e (Tag.normalize e.tag)).1
      else []) = [] := by
    apply k.pairs_eq_nil
    intro x hx
    split at hx
    · obtain ⟨⟨suffix, hs⟩, harity⟩ := c.isAttributeOf_attributeFacts f e _ x hx
      exact k.pair?_of_regular (hs ▸ ht.append suffix) (by omega)
    · cases hx
  have hunit : k.pairs (if Tag.kind (Tag.normalize e.tag) = .compileUnit then
      c.unitFacts e l else []) = [] := by
    apply k.pairs_eq_nil
    intro x hx
    split at hx
    · apply k.pair?_of_predicate_ne
      rcases c.predicate_unitFacts e l x hx with hp | hp <;> rw [hp] <;> cases k <;> decide
    · cases hx
  rw [visitFacts]
  simp only [k.pairs_append, hself, hattr, hunit, List.nil_append, List.append_nil]
  exact c.pairs_relationFacts k f _ 0 _

end WalkContext

/-- Since the ledger `l` the pairs in the facts are without repetition, are not in `l`, and have been
recorded. -/
structure Once (k : PairKind) (l : Ledger) (s : WalkState) : Prop where
  nodup : (k.pairs s.facts.toList).Nodup
  unrecorded : ∀ x ∈ k.pairs s.facts.toList, l.hasChild x.1 x.2 = false
  recorded : ∀ x ∈ k.pairs s.facts.toList, s.ledger.hasChild x.1 x.2 = true
  kept : ∀ p q, l.hasChild p q = true → s.ledger.hasChild p q = true

namespace Once

variable {k : PairKind} {l : Ledger} {s : WalkState}

theorem start (k : PairKind) (l : Ledger) : Once k l { ledger := l } where
  nodup := List.nodup_nil
  unrecorded _ hx := (List.not_mem_nil hx).elim
  recorded _ hx := (List.not_mem_nil hx).elim
  kept _ _ h := h

theorem visit {c : WalkContext} (f : WalkFrame) (h : Once k l s)
    (ht : ∀ i e, c.unit.get? i = some e → Tag.Regular (Tag.normalize e.tag)) :
    Once k l (c.visit f s).1 := by
  cases he : c.unit.get? f.index with
  | none => rwa [c.visit_of_none s he]
  | some e =>
    have hkept (p q : Identity) (hp : s.ledger.hasChild p q = true) :
        (c.visit f s).1.ledger.hasChild p q = true := (c.hasChild_visit f s p q).2 (.inl hp)
    obtain ⟨hnodup, hnew⟩ := s.ledger.newFrames_new f.id (c.offspring f)
    have hsub := c.pairs_visitFacts k f e s.ledger (ht _ _ he)
    have hfacts : k.pairs (c.visit f s).1.facts.toList =
        k.pairs s.facts.toList ++ k.pairs (c.visitFacts f e s.ledger) := by
      rw [c.visit_eq s he]
      simp only [Array.toList_append, k.pairs_append]
    have hvisit : ∀ x ∈ k.pairs (c.visitFacts f e s.ledger),
        s.ledger.hasChild x.1 x.2 = false ∧ (c.visit f s).1.ledger.hasChild x.1 x.2 = true := by
      intro x hx
      obtain ⟨g, hg, rfl⟩ := List.mem_map.1 (hsub.subset hx)
      have hmem : g ∈ c.offspring f := (s.ledger.newFrames_sublist _ _).subset hg
      exact ⟨hnew g hg, (c.hasChild_visit f s _ _).2 (.inr ⟨rfl, g, hmem, rfl⟩)⟩
    have hpairs : (k.pairs (c.visitFacts f e s.ledger)).Nodup := by
      refine List.Nodup.sublist hsub ?_
      have hmap : (s.ledger.newFrames f.id (c.offspring f)).map (fun g => (f.id, g.id)) =
          ((s.ledger.newFrames f.id (c.offspring f)).map (·.id)).map (Prod.mk f.id) := by
        rw [List.map_map]
        rfl
      rw [hmap]
      exact hnodup.map fun _ _ he => congrArg Prod.snd he
    constructor
    · rw [hfacts]
      refine h.nodup.append hpairs fun x hx hx' => ?_
      have hold := h.recorded x hx
      rw [(hvisit x hx').1] at hold
      cases hold
    · intro x hx
      rw [hfacts, List.mem_append] at hx
      rcases hx with hx | hx
      · exact h.unrecorded x hx
      · rw [Bool.eq_false_iff]
        intro hl
        have hold := h.kept _ _ hl
        rw [(hvisit x hx).1] at hold
        cases hold
    · intro x hx
      rw [hfacts, List.mem_append] at hx
      rcases hx with hx | hx
      · exact hkept _ _ (h.recorded x hx)
      · exact (hvisit x hx).2
    · intro p q hp
      exact hkept p q (h.kept p q hp)

variable {b : Corpus}

theorem walk (o : WalkOptions) (unitIndex root : Nat) (parent : Option Identity) (h : Once k l s)
    (ht : ∀ t ∈ b.sites, Tag.Regular t.tag) : Once k l (b.walk o unitIndex root parent s) :=
  Corpus.walk_induction
    (fun _ hu f _ hs => hs.visit f fun _ _ he => Corpus.tag_of_sites ht hu he) o unitIndex root parent h

theorem walkAll (o : WalkOptions) (h : Once k l s) (ht : ∀ t ∈ b.sites, Tag.Regular t.tag) :
    Once k l (b.walkAll o s) :=
  Corpus.walkAll_induction
    (fun _ hu f _ hs => hs.visit f fun _ _ he => Corpus.tag_of_sites ht hu he) o h

end Once

/-- A walk of a whole binary, or of what is below one of its entries. -/
inductive WalkCall where
  | whole (options : WalkOptions)
  | below (options : WalkOptions) (unitIndex root : Nat) (parent : Option Identity)

namespace Corpus

def call (b : Corpus) (s : WalkState) : WalkCall → WalkState
  | .whole o => b.walkAll o s
  | .below o unitIndex root parent => b.walk o unitIndex root parent s

/-- Walks one after the other that share a ledger; the facts are those of all of them. -/
def calls (b : Corpus) (l : Ledger) (walks : List WalkCall) : WalkState :=
  walks.foldl b.call { ledger := l }

/-- Whatever is walked, however often and from whatever ledger, no pair is reported twice in one
kind of facts, none is reported that the ledger had, and all that are reported are recorded. -/
theorem pairs_calls {b : Corpus} (ht : ∀ t ∈ b.sites, Tag.Regular t.tag) (l : Ledger)
    (walks : List WalkCall) (k : PairKind) :
    (k.pairs (b.calls l walks).facts.toList).Nodup ∧
      ∀ x ∈ k.pairs (b.calls l walks).facts.toList,
        l.hasChild x.1 x.2 = false ∧ (b.calls l walks).ledger.hasChild x.1 x.2 = true := by
  have honce : Once k l (b.calls l walks) := by
    refine List.foldlRecOn _ _ (Once.start k l) fun s hs walk _ => ?_
    cases walk with
    | whole o => exact hs.walkAll o ht
    | below o unitIndex root parent => exact hs.walk o unitIndex root parent ht
  exact ⟨honce.nodup, fun x hx => ⟨honce.unrecorded x hx, honce.recorded x hx⟩⟩

/-- A function with two parameters that cannot be told apart, and a block that is its own child. -/
def twins : Corpus where
  path := Path.ofString "/a"
  units := #[((((DebugUnit.empty 0).push none 11 "DW_TAG_subprogram" []).push (some 0) 42
    "DW_TAG_formal_parameter" []).push (some 0) 42 "DW_TAG_formal_parameter" []).push (some 3) 42
    "DW_TAG_lexical_block" []]

def everything : WalkOptions where
  allowedTags := ["dw_tag_function", "dw_tag_formal_parameter", "dw_tag_lexical_block"]
  maxDepth := 5
  maxTypeChain := 8
  generatorVersion := "1"

/-- The walks go over everything twice, and once more below the entry that is its own child. -/
theorem pairs_calls_twins :
    (PairKind.relation.pairs (twins.calls {} [.whole everything, .whole everything,
        .below everything 0 3 none]).facts.toList).Nodup ∧
      (PairKind.parameter.pairs (twins.calls {} [.whole everything, .whole everything,
        .below everything 0 3 none]).facts.toList).Nodup := by
  have ht : ∀ t ∈ twins.sites, Tag.Regular t.tag := by decide +kernel
  exact ⟨(pairs_calls ht {} _ .relation).1, (pairs_calls ht {} _ .parameter).1⟩

end Corpus

end ElfFacts
