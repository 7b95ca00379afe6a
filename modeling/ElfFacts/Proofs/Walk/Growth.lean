import ElfFacts.Proofs.Walk.Declared
import ElfFacts.Proofs.Walk.Trace

/-!
# Ledgers only grow

No visit makes a ledger forget a pair, an entry, a language or that there was a compile unit. So
what a visit leaves in the ledger about its entry, `Known`, is still there after all visits that
follow, whatever entries and units they are of.
-/
namespace ElfFacts

structure Ledger.Within (l l' : Ledger) : Prop where
  pairs : ∀ p q, l.hasChild p q = true → l'.hasChild p q = true
  registry : ∀ id, id ∈ l.registry → id ∈ l'.registry
  languages : ∀ language, language ∈ l.languages → language ∈ l'.languages
  sawCompileUnit : l.sawCompileUnit = true → l'.sawCompileUnit = true

namespace Ledger.Within

variable {l l' l'' : Ledger}

theorem refl (l : Ledger) : Within l l where
  pairs _ _ h := h
  registry _ h := h
  languages _ h := h
  sawCompileUnit h := h

theorem trans (h : Within l l') (h' : Within l' l'') : Within l l'' where
  pairs p q hp := h'.pairs p q (h.pairs p q hp)
  registry id hid := h'.registry id (h.registry id hid)
  languages language hl := h'.languages language (h.languages language hl)
  sawCompileUnit hsaw := h'.sawCompileUnit (h.sawCompileUnit hsaw)

theorem visit (c : WalkContext) (f : WalkFrame) (s : WalkState) :
    Within s.ledger (c.visit f s).1.ledger := by
  cases he : c.unit.get? f.index with
  | none =>
    rw [c.visit_of_none s he]
    exact refl _
  | some e =>
    refine ⟨fun p q h => (c.hasChild_visit f s p q).2 (.inl h), ?_, ?_, ?_⟩
    all_goals rw [c.visit_eq s he]
    · intro id hid
      rw [c.registry_visitLedger, Std.HashMap.mem_insert]
      exact .inr hid
    · intro language hl
      exact (c.mem_languages_visitLedger f e s.ledger).2 (.inl hl)
    · intro hsaw
      rw [c.sawCompileUnit_visitLedger, hsaw, Bool.true_or]

end Ledger.Within

namespace WalkContext

structure Known (c : WalkContext) (f : WalkFrame) (e : DebugEntry) (l : Ledger) : Prop where
  registered : f.id ∈ l.registry
  paired : ∀ g ∈ c.offspring f, l.hasChild f.id g.id = true
  sawCompileUnit : Tag.kind (Tag.normalize e.tag) = .compileUnit → l.sawCompileUnit = true
  declared : ∀ language, Declares e language → language ∈ l.languages

variable {c : WalkContext} {f : WalkFrame} {e : DebugEntry} {l l' : Ledger}

theorem Known.mono (h : c.Known f e l) (hl : l.Within l') : c.Known f e l' where
  registered := hl.registry _ h.registered
  paired g hg := hl.pairs _ _ (h.paired g hg)
  sawCompileUnit hunit := hl.sawCompileUnit (h.sawCompileUnit hunit)
  declared language hd := hl.languages language (h.declared language hd)

theorem known_visit (s : WalkState) (he : c.unit.get? f.index = some e) :
    c.Known f e (c.visit f s).1.ledger := by
  refine ⟨?_, fun g hg => (c.hasChild_visit f s _ _).2 (.inr ⟨rfl, g, hg, rfl⟩), ?_, ?_⟩
  all_goals rw [c.visit_eq s he]
  · rw [c.registry_visitLedger]
    exact Std.HashMap.mem_insert_self
  · intro hunit
    rw [c.sawCompileUnit_visitLedger, decide_eq_true hunit, Bool.or_true]
  · intro language hd
    exact (c.mem_languages_visitLedger f e s.ledger).2 (.inr hd)

end WalkContext

namespace Corpus

variable {b : Corpus} {o : WalkOptions}

theorem within_foldl_encounter (xs : List Encounter) (s : WalkState) :
    s.ledger.Within (xs.foldl (b.encounter o) s).ledger := by
  induction xs generalizing s with
  | nil => exact .refl _
  | cons x xs ih => exact (Ledger.Within.visit (b.context o x.1) x.2 s).trans (ih _)

/-- After a row of visits the ledger knows every entry that was visited. -/
theorem known_foldl_encounter {xs : List Encounter} {x : Encounter} (hx : x ∈ xs) {e : DebugEntry}
    (he : x.1.1.get? x.2.index = some e) (s : WalkState) :
    (b.context o x.1).Known x.2 e (xs.foldl (b.encounter o) s).ledger := by
  induction xs generalizing s with
  | nil => cases hx
  | cons y xs ih =>
    rcases List.mem_cons.1 hx with rfl | hx
    · exact (WalkContext.known_visit s he).mono (within_foldl_encounter xs _)
    · exact ih hx _

end Corpus

end ElfFacts
