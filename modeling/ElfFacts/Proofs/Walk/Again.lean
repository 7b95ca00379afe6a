import ElfFacts.Proofs.Walk.Calls
import ElfFacts.Proofs.Walk.Deeper
import ElfFacts.Proofs.Walk.Growth
import Mathlib.Algebra.GroupWithZero.Nat

/-!
# Walking again

A walk that goes on from the ledger of a walk of the same binary meets nothing new. The first walk
has visited every root, so whatever the ledger was before, it knows the roots then; a visit of an
entry that is known hands on no children and leaves all that the ledger knows as it is. The second
walk is therefore a visit of each root.
-/
namespace ElfFacts

/-- The ledgers differ at most in the places at which entries are registered. -/
structure Ledger.Alike (l l' : Ledger) : Prop where
  pairs : l'.pairs = l.pairs
  languages : l'.languages = l.languages
  sawCompileUnit : l'.sawCompileUnit = l.sawCompileUnit
  registry : ∀ id, id ∈ l'.registry ↔ id ∈ l.registry
  visited : l'.visited = l.visited

namespace Ledger

variable {l l' l'' : Ledger}

theorem Alike.refl (l : Ledger) : Alike l l := ⟨rfl, rfl, rfl, fun _ => Iff.rfl, rfl⟩

theorem Alike.trans (h : Alike l l') (h' : Alike l' l'') : Alike l l'' where
  pairs := h'.pairs.trans h.pairs
  languages := h'.languages.trans h.languages
  sawCompileUnit := h'.sawCompileUnit.trans h.sawCompileUnit
  registry id := (h'.registry id).trans (h.registry id)
  visited := h'.visited.trans h.visited

theorem alike_register {id : Identity} (hid : id ∈ l.registry) (place : Nat × Nat) :
    Alike l (l.register id place) where
  pairs := rfl
  languages := rfl
  sawCompileUnit := rfl
  registry id' := by
    rw [register, Std.HashMap.mem_insert, beq_iff_eq]
    exact or_iff_right_of_imp fun h => h ▸ hid
  visited := by rw [visited, register, Std.HashMap.size_insert, if_pos hid, visited]

theorem newFrames_eq_nil {p : Identity} {frames : List WalkFrame}
    (h : ∀ g ∈ frames, l.hasChild p g.id = true) : l.newFrames p frames = [] := by
  induction frames with
  | nil => rfl
  | cons g frames ih =>
    rw [newFrames, if_pos (h g (List.mem_cons_self ..))]
    exact ih fun g' hg' => h g' (List.mem_cons_of_mem g hg')

end Ledger

namespace WalkContext

variable {c : WalkContext} {f : WalkFrame} {e : DebugEntry} {l l' : Ledger} {s : WalkState}

namespace Known

variable (h : c.Known f e l) (hunit : Tag.kind (Tag.normalize e.tag) = .compileUnit)

include h

theorem newFrames_eq_nil : l.newFrames f.id (c.offspring f) = [] := Ledger.newFrames_eq_nil h.paired

include hunit

theorem newLanguage?_eq_none : newLanguage? e l = none := by
  rw [newLanguage?, Option.filter_eq_none_iff]
  intro language hlanguage
  simpa using h.declared language ⟨hunit, hlanguage⟩

theorem unitFacts_eq_nil : c.unitFacts e l = [] := by
  rw [unitFacts, h.newLanguage?_eq_none hunit, if_pos (h.sawCompileUnit hunit)]
  rfl

theorem recordUnit_eq (id : Identity) (place : Nat × Nat) :
    recordUnit e (l.register id place) = l.register id place := by
  have hnone : newLanguage? e (l.register id place) = none := h.newLanguage?_eq_none hunit
  have hsaw : (l.register id place).sawCompileUnit = true := h.sawCompileUnit hunit
  rw [recordUnit, hnone, Option.toList_none, List.append_nil, ← hsaw]

end Known

/-- The visit of an entry that is known: it hands nothing on and reports only the entry itself. -/
theorem visit_of_known (he : c.unit.get? f.index = some e) (h : c.Known f e s.ledger) :
    (c.visit f s).2 = [] ∧
      (c.visit f s).1.ledger = s.ledger.register f.id (c.unitIndex, f.index) ∧
      (c.visit f s).1.stats.entries = s.stats.entries + 1 ∧
      (c.visit f s).1.stats.duplicateChildren =
        s.stats.duplicateChildren + (c.offspring f).length ∧
      (c.visit f s).1.facts.toList = s.facts.toList ++ c.entryFacts f e [] := by
  have hnew := h.newFrames_eq_nil
  rw [c.visit_eq s he]
  refine ⟨hnew, ?_, rfl, ?_, ?_⟩
  · rw [visitLedger, hnew, Ledger.addChildren_nil]
    split
    · next hunit => exact h.recordUnit_eq hunit _ _
    · rfl
  · rw [visitStats, hnew, List.length_nil, Nat.sub_zero]
  · rw [Array.toList_append, visitFacts_eq, hnew]
    split
    · next hunit => rw [h.unitFacts_eq_nil hunit, List.append_nil]
    · rw [List.append_nil]

def Met (c : WalkContext) (f : WalkFrame) (l : Ledger) : Prop :=
  ∃ e, c.unit.get? f.index = some e ∧ c.Known f e l

theorem Met.mono (h : c.Met f l) (hl : l.Within l') : c.Met f l' := by
  obtain ⟨e, he, hknown⟩ := h
  exact ⟨e, he, hknown.mono hl⟩

theorem visits_of_met {frames : List WalkFrame} (h : ∀ f ∈ frames, c.Met f s.ledger) :
    c.visits frames s = frames := by
  induction frames generalizing s with
  | nil => exact c.visits_nil s
  | cons f frames ih =>
    obtain ⟨e, he, hknown⟩ := h f (List.mem_cons_self ..)
    rw [visits_cons, (visit_of_known he hknown).1, List.nil_append]
    congr 1
    exact ih fun g hg => (h g (List.mem_cons_of_mem f hg)).mono (Ledger.Within.visit c f s)

end WalkContext

namespace Corpus

variable {b : Corpus} {o : WalkOptions}

def unitRoots (b : Corpus) (o : WalkOptions) (x : DebugUnit × Nat) : List Encounter :=
  (x.1.roots.map (b.context o x).frameAt).map (Prod.mk x)

def rootVisits (b : Corpus) (o : WalkOptions) : List Encounter :=
  b.units.toList.zipIdx.flatMap (b.unitRoots o)

def ownFacts (b : Corpus) (o : WalkOptions) (x : Encounter) : List Fact :=
  (b.context o x.1).entryFacts x.2 (x.1.1.entryAt x.2.index) []

theorem mem_rootVisits {x : Encounter} (hx : x ∈ b.rootVisits o) :
    ∃ u k r, u ∈ b.units ∧ r < u.entries.size ∧ u.parent? r = none ∧
      x = ((u, k), (b.context o (u, k)).frameAt r) := by
  obtain ⟨⟨u, k⟩, hu, hx⟩ := List.mem_flatMap.1 hx
  obtain ⟨f, hf, rfl⟩ := List.mem_map.1 hx
  obtain ⟨r, hr, rfl⟩ := List.mem_map.1 hf
  rw [DebugUnit.roots, List.mem_filter, List.mem_range, Option.isNone_iff_eq_none] at hr
  exact ⟨u, k, r, Array.mem_of_getElem? (mem_zipIdx hu), hr.1, hr.2, rfl⟩

theorem get?_of_mem_rootVisits {x : Encounter} (hx : x ∈ b.rootVisits o) :
    x.1.1.get? x.2.index = some (x.1.1.entryAt x.2.index) := by
  obtain ⟨u, k, r, -, hr, -, rfl⟩ := mem_rootVisits hx
  exact DebugUnit.get?_of_lt hr

theorem regular_of_mem_rootVisits (ht : ∀ t ∈ b.sites, Tag.Regular t.tag) {x : Encounter}
    (hx : x ∈ b.rootVisits o) : Tag.Regular (Tag.normalize (x.1.1.entryAt x.2.index).tag) := by
  have he := get?_of_mem_rootVisits hx
  obtain ⟨u, k, r, hu, -, -, rfl⟩ := mem_rootVisits hx
  exact tag_of_sites ht hu he

theorem rootVisits_subset_visits (s : WalkState) : b.rootVisits o ⊆ b.visits o s := by
  rw [rootVisits, visits]
  generalize b.units.toList.zipIdx = units
  induction units generalizing s with
  | nil => exact List.nil_subset _
  | cons x units ih =>
    rw [List.flatMap_cons, unitVisits]
    refine List.append_subset.2 ⟨?_, List.subset_append_of_subset_right _ (ih _)⟩
    refine List.subset_append_of_subset_left _ (List.map_subset _ fun f hf => ?_)
    exact WalkContext.mem_visits hf s

theorem met_walkAll (l : Ledger) {x : Encounter} (hx : x ∈ b.rootVisits o) :
    (b.context o x.1).Met x.2 (b.walkAll o { ledger := l }).ledger := by
  have he := get?_of_mem_rootVisits hx
  rw [walkAll_eq_foldl_encounter]
  exact ⟨_, he, known_foldl_encounter (rootVisits_subset_visits _ hx) he _⟩

theorem unitVisits_of_met {units : List (DebugUnit × Nat)} {s : WalkState}
    (h : ∀ x ∈ units.flatMap (b.unitRoots o), (b.context o x.1).Met x.2 s.ledger) :
    b.unitVisits o units s = units.flatMap (b.unitRoots o) := by
  induction units generalizing s with
  | nil => rfl
  | cons x units ih =>
    rw [List.flatMap_cons] at h ⊢
    have hroots : ∀ f ∈ x.1.roots.map (b.context o x).frameAt, (b.context o x).Met f s.ledger :=
      fun f hf => h (x, f) (List.mem_append_left _ (List.mem_map_of_mem hf))
    rw [unitVisits, WalkContext.visits_of_met hroots, run_eq_foldl_encounter]
    congr 1
    exact ih fun y hy => (h y (List.mem_append_right _ hy)).mono (within_foldl_encounter _ s)

/-- What a row of visits of known entries comes to. -/
structure Repeated (b : Corpus) (o : WalkOptions) (xs : List Encounter) (s s' : WalkState) :
    Prop where
  alike : s.ledger.Alike s'.ledger
  entries : s'.stats.entries = s.stats.entries + xs.length
  duplicates : s'.stats.duplicateChildren = s.stats.duplicateChildren +
    (xs.map fun x => ((b.context o x.1).offspring x.2).length).sum
  facts : s'.facts.toList = s.facts.toList ++ xs.flatMap (b.ownFacts o)

theorem Repeated.append {xs ys : List Encounter} {s s' s'' : WalkState}
    (hxs : b.Repeated o xs s s') (hys : b.Repeated o ys s' s'') :
    b.Repeated o (xs ++ ys) s s'' where
  alike := hxs.alike.trans hys.alike
  entries := by rw [hys.entries, hxs.entries, List.length_append, Nat.add_assoc]
  duplicates := by
    rw [hys.duplicates, hxs.duplicates, List.map_append, List.sum_append, Nat.add_assoc]
  facts := by rw [hys.facts, hxs.facts, List.flatMap_append, List.append_assoc]

theorem repeated_encounter {x : Encounter} {s : WalkState}
    (h : (b.context o x.1).Met x.2 s.ledger) : b.Repeated o [x] s (b.encounter o s x) := by
  obtain ⟨e, he, hknown⟩ := h
  obtain ⟨-, hledger, hentries, hduplicates, hfacts⟩ := WalkContext.visit_of_known he hknown
  refine ⟨?_, hentries, hduplicates, ?_⟩
  · rw [encounter, hledger]
    exact Ledger.alike_register hknown.registered _
  · have he' : x.1.1.get? x.2.index = some e := he
    rw [encounter, hfacts, List.flatMap_singleton, ownFacts, DebugUnit.entryAt, he',
      Option.getD_some]

theorem repeated_foldl_encounter {xs : List Encounter} {s : WalkState}
    (h : ∀ x ∈ xs, (b.context o x.1).Met x.2 s.ledger) :
    b.Repeated o xs s (xs.foldl (b.encounter o) s) := by
  induction xs generalizing s with
  | nil => exact ⟨.refl _, rfl, rfl, (List.append_nil _).symm⟩
  | cons x xs ih =>
    have hrest := ih fun y hy => (h y (List.mem_cons_of_mem x hy)).mono
      (Ledger.Within.visit (b.context o x.1) x.2 s)
    exact (repeated_encounter (h x (List.mem_cons_self ..))).append hrest

theorem visits_again (o : WalkOptions) (l : Ledger) :
    b.visits o { ledger := (b.walkAll o { ledger := l }).ledger } = b.rootVisits o :=
  unitVisits_of_met fun _ hx => met_walkAll l hx

theorem repeated_again (o : WalkOptions) (l : Ledger) :
    b.Repeated o (b.rootVisits o) { ledger := (b.walkAll o { ledger := l }).ledger }
      (b.walkAll o { ledger := (b.walkAll o { ledger := l }).ledger }) := by
  rw [b.walkAll_eq_foldl_encounter { ledger := (b.walkAll o { ledger := l }).ledger }, visits_again]
  exact repeated_foldl_encounter fun _ hx => met_walkAll l hx

theorem sum_map_rootVisits (n : DebugUnit → Nat → Nat) :
    ((b.rootVisits o).map fun x => n x.1.1 x.2.index).sum =
      (b.units.toList.map fun u => (u.roots.map (n u)).sum).sum := by
  have hunits : b.units.toList = b.units.toList.zipIdx.map Prod.fst := by rw [List.zipIdx_map_fst]
  rw [rootVisits, List.map_flatMap, List.flatMap_def, List.sum_flatten, List.map_map, hunits,
    List.map_map, ← hunits]
  congr 1
  apply List.map_congr_left
  intro x _
  rw [Function.comp_apply]
  rw [unitRoots, List.map_map, List.map_map]
  rfl

theorem length_rootVisits :
    (b.rootVisits o).length = (b.units.toList.map fun u => u.roots.length).sum := by
  have hsum := sum_map_rootVisits (b := b) (o := o) fun _ _ => 1
  simpa using hsum

theorem length_offspring_of_mem_rootVisits
    (hc : ∀ t ∈ b.sites, ∀ j ∈ t.unit.childrenAt t.index, j < t.unit.entries.size)
    {x : Encounter} (hx : x ∈ b.rootVisits o) :
    ((b.context o x.1).offspring x.2).length =
      if 0 < o.maxDepth then (x.1.1.childrenAt x.2.index).length else 0 := by
  obtain ⟨u, k, r, hu, hr, hroot, rfl⟩ := mem_rootVisits hx
  let c := b.context o (u, k)
  have he : c.unit.get? (c.frameAt r).index = some (u.entryAt r) := DebugUnit.get?_of_lt hr
  have hdepth : (c.frameAt r).depth = 0 := congrArg List.length (DebugUnit.ancestors_of_root hroot)
  have hkids : u.childrenAt r = (u.entryAt r).children.toList := by
    rw [DebugUnit.childrenAt, DebugUnit.get?_of_lt hr, Option.map_some, Option.getD_some]
  have hoffspring : c.offspring (c.frameAt r) =
      (if 0 < o.maxDepth then u.childrenAt r else []).filterMap (c.childFrame? (c.frameAt r)) := by
    rw [WalkContext.offspring, he, hkids]
    dsimp only
    rw [WalkContext.reachable, hdepth]
    rfl
  dsimp only
  rw [hoffspring]
  split
  · refine List.filterMap_length_eq_length.2 fun j hj => ?_
    have hlt : j < u.entries.size := hc ⟨u, r⟩ (mem_sites.2 ⟨hu, hr⟩) j hj
    have hget : c.unit.get? j = some (u.entryAt j) := DebugUnit.get?_of_lt hlt
    rw [WalkContext.childFrame?, hget, Option.map_some, Option.isSome_some]
  · rfl

theorem regular_of_mem_ownFacts {x : Encounter} {y : Fact}
    (ht : Tag.Regular (Tag.normalize (x.1.1.entryAt x.2.index).tag)) (hy : y ∈ b.ownFacts o x) :
    Tag.Regular y.predicate ∧ y.arguments.length ≠ 4 := by
  rw [ownFacts, WalkContext.entryFacts, WalkContext.relationFacts, List.append_nil,
    List.mem_append] at hy
  rcases hy with hy | hy
  · split at hy
    · obtain rfl := List.mem_singleton.1 hy
      exact ⟨ht, Nat.ne_of_beq_eq_false rfl⟩
    · cases hy
  · split at hy
    · obtain ⟨⟨suffix, hs⟩, harity⟩ := WalkContext.isAttributeOf_attributeFacts _ _ _ _ y hy
      exact ⟨hs ▸ ht.append suffix, by omega⟩
    · cases hy

/-- After a walk of a binary, from whatever ledger, a second one with the same options visits the
roots and nothing else. It skips all children of the roots unless the depth limit is zero, reports
of the roots what is about them alone, and the ledger stays as it is but for the places of the
roots. -/
theorem walkAll_again {b : Corpus}
    (hc : ∀ t ∈ b.sites, ∀ j ∈ t.unit.childrenAt t.index, j < t.unit.entries.size)
    (ht : ∀ t ∈ b.sites, Tag.Regular t.tag) (o : WalkOptions) (l : Ledger) :
    let first := b.walkAll o { ledger := l }
    let second := b.walkAll o { ledger := first.ledger }
    b.visits o { ledger := first.ledger } = b.rootVisits o ∧
      second.stats.entries = (b.units.toList.map fun u => u.roots.length).sum ∧
      second.stats.duplicateChildren =
        (if 0 < o.maxDepth then
          (b.units.toList.map fun u => (u.roots.map fun r => (u.childrenAt r).length).sum).sum
        else 0) ∧
      second.facts.toList = (b.rootVisits o).flatMap (b.ownFacts o) ∧
      (∀ x ∈ second.facts.toList, x.isRelation = false ∧ x.isNumbering = false ∧
        x.predicate ≠ "generator_version" ∧ x.predicate ≠ "language") ∧
      first.ledger.Alike second.ledger := by
  intro first second
  have hagain : b.Repeated o (b.rootVisits o) { ledger := first.ledger } second :=
    repeated_again o l
  have hfacts : second.facts.toList = (b.rootVisits o).flatMap (b.ownFacts o) := hagain.facts
  refine ⟨visits_again o l, ?_, ?_, hfacts, fun y hy => ?_, hagain.alike⟩
  · rw [hagain.entries, length_rootVisits, Nat.zero_add]
  · rw [hagain.duplicates, Nat.zero_add,
      List.map_congr_left fun x hx => length_offspring_of_mem_rootVisits hc hx]
    split
    · exact sum_map_rootVisits fun u i => (u.childrenAt i).length
    · simp
  -- What is reported about a root itself is named after its tag, and no fixed predicate looks so.
  · rw [hfacts] at hy
    obtain ⟨x, hx, hy⟩ := List.mem_flatMap.1 hy
    have hregular := regular_of_mem_rootVisits ht hx
    obtain ⟨hpredicate, harity⟩ := regular_of_mem_ownFacts hregular hy
    have hother {name : String} (hname : ¬ Tag.Regular name) : y.predicate ≠ name :=
      fun h => hname (h ▸ hpredicate)
    exact ⟨Fact.isRelation_of_regular hpredicate, Fact.isNumbering_of_length harity,
      hother (by decide), hother (by decide)⟩

theorem walkAll_again_twins :
    let first := twins.walkAll everything {}
    let second := twins.walkAll everything { ledger := first.ledger }
    second.stats.entries = 1 ∧ second.stats.duplicateChildren = 2 ∧
      first.ledger.Alike second.ledger := by
  intro first second
  have hc : ∀ t ∈ twins.sites, ∀ j ∈ t.unit.childrenAt t.index, j < t.unit.entries.size := by
    decide +kernel
  have ht : ∀ t ∈ twins.sites, Tag.Regular t.tag := by decide +kernel
  obtain ⟨-, hentries, hduplicates, -, -, halike⟩ := walkAll_again hc ht everything {}
  exact ⟨hentries.trans (by decide +kernel), hduplicates.trans (by decide +kernel), halike⟩

end Corpus

end ElfFacts
