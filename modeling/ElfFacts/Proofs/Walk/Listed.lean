import ElfFacts.Proofs.Walk.Trace

/-!
# Listing more tags

The tags that are listed decide what is reported about an entry and its relations, and nothing else.
Two walks with different lists visit the same entries and keep the same ledger; with more tags listed
a walk reports what it would report with fewer, in the same order, and some facts in between.
-/
namespace ElfFacts

def WalkOptions.listing (o : WalkOptions) (tags : List String) : WalkOptions :=
  { o with allowedTags := tags }

theorem WalkOptions.allows_listing {o : WalkOptions} {tags : List String}
    (h : ∀ t ∈ o.allowedTags, t ∈ tags) {tag : String} (ht : o.allows tag = true) :
    (o.listing tags).allows tag = true := by
  rw [allows, List.contains_iff_mem] at ht ⊢
  exact h tag ht

theorem ite_sublist_ite {α : Type} {p q : Prop} [Decidable p] [Decidable q] (h : p → q)
    (l : List α) : (if p then l else []).Sublist (if q then l else []) := by
  by_cases hp : p
  · rw [if_pos hp, if_pos (h hp)]
  · rw [if_neg hp]
    exact List.nil_sublist _

namespace WalkContext

variable (c : WalkContext) (f : WalkFrame) (e : DebugEntry) (l : Ledger) {tags : List String}

def listing (tags : List String) : WalkContext := { c with options := c.options.listing tags }

variable {c}

theorem childFacts_listing (h : ∀ t ∈ c.options.allowedTags, t ∈ tags) (tag childTag : String)
    (id : Identity) (n : Nat) :
    (c.childFacts f tag childTag id n).Sublist ((c.listing tags).childFacts f tag childTag id n) := by
  refine (List.Sublist.refl _).append (ite_sublist_ite ?_ _)
  rw [Bool.or_eq_true, Bool.or_eq_true]
  exact Or.imp (WalkOptions.allows_listing h) (WalkOptions.allows_listing h)

theorem relationFacts_listing (h : ∀ t ∈ c.options.allowedTags, t ∈ tags) (tag : String) (n : Nat)
    (frames : List WalkFrame) :
    (c.relationFacts f tag n frames).Sublist ((c.listing tags).relationFacts f tag n frames) := by
  induction frames generalizing n with
  | nil => exact List.Sublist.slnil
  | cons g frames ih => exact (childFacts_listing f h tag _ g.id n).append (ih _)

theorem visitReports_listing (h : ∀ t ∈ c.options.allowedTags, t ∈ tags) :
    (c.visitReports f e l).Sublist ((c.listing tags).visitReports f e l) := by
  have hallows : c.options.allows (Tag.normalize e.tag) = true →
      (c.listing tags).options.allows (Tag.normalize e.tag) = true := WalkOptions.allows_listing h
  exact (((ite_sublist_ite hallows _).append ((relationFacts_listing f h _ 0 _).map _)).append
    (ite_sublist_ite hallows _)).append (List.Sublist.refl _)

variable (c)

/-- Numbers of parameters are reported whatever is listed, and the rest of what is reported about
children is none of the facts that are. -/
theorem filter_ofChild_relationFacts {k : Source} (hk : k.signature?.isSome = true) (tag : String)
    (n : Nat) (frames : List WalkFrame) :
    ((c.relationFacts f tag n frames).filter fun x => Source.ofChild x = k) =
      ((c.listing tags).relationFacts f tag n frames).filter fun x => Source.ofChild x = k := by
  have hrelation : ¬ Source.ofChild (relationFact f.id f.id) = k := by
    rintro rfl
    cases hk
  have hchild (d : WalkContext) (childTag : String) (id : Identity) (n : Nat) :
      ((d.childFacts f tag childTag id n).filter fun x => Source.ofChild x = k) =
        (if isParameter tag childTag then [parameterFact d.path f.id id n] else []).filter
          fun x => Source.ofChild x = k := by
    have hr : ¬ Source.ofChild (relationFact f.id id) = k := hrelation
    rw [childFacts, List.filter_append]
    split <;> split <;> simp [hr]
  induction frames generalizing n with
  | nil => rfl
  | cons g frames ih =>
    rw [relationFacts, relationFacts, List.filter_append, List.filter_append, ih, hchild, hchild]
    rfl

theorem filter_visitReports_listing {k : Source} (hk : k.signature?.isSome = true) :
    ((c.visitReports f e l).filter fun x => x.1 = k) =
      ((c.listing tags).visitReports f e l).filter fun x => x.1 = k := by
  have hentry : Source.entry ≠ k := by
    rintro rfl
    cases hk
  have hattribute : Source.attribute ≠ k := by
    rintro rfl
    cases hk
  have hown (d : WalkContext) :
      ((d.visitReports f e l).filter fun x => x.1 = k) =
        ((d.relationFacts f (Tag.normalize e.tag) 0 (l.newFrames f.id (d.offspring f))).filter
          fun x => Source.ofChild x = k).map (fun x => (Source.ofChild x, x)) ++
        (if Tag.kind (Tag.normalize e.tag) = .compileUnit then
          (d.unitFacts e l).map fun x => (Source.ofUnit x, x) else []).filter fun x => x.1 = k := by
    have hrest : ((if d.options.allows (Tag.normalize e.tag) then
        (d.attributeFacts f e (Tag.normalize e.tag) (d.typePart f e (Tag.normalize e.tag)).1).map
          (Prod.mk Source.attribute) else []).filter fun x => x.1 = k) = [] := by
      split <;> simp [List.filter_map, Function.comp_def, hattribute]
    have hfirst : ((if d.options.allows (Tag.normalize e.tag) then
        [(Source.entry, existenceFact d.path (Tag.normalize e.tag) f.id)] else []).filter
          fun x => x.1 = k) = [] := by
      split <;> simp [hentry]
    simp only [visitReports, List.filter_append, hfirst, hrest, List.nil_append, List.append_nil,
      List.filter_map]
    rfl
  rw [hown, hown, filter_ofChild_relationFacts c f hk]
  rfl

theorem reportsAt_listing (h : ∀ t ∈ c.options.allowedTags, t ∈ tags) {s s' : WalkState}
    (hl : s'.ledger = s.ledger) :
    (c.reportsAt f s).Sublist ((c.listing tags).reportsAt f s') ∧
      ∀ k : Source, k.signature?.isSome = true →
        ((c.reportsAt f s).filter fun x => x.1 = k) =
          ((c.listing tags).reportsAt f s').filter fun x => x.1 = k := by
  have hunit : (c.listing tags).unit = c.unit := rfl
  unfold reportsAt
  rw [hunit, hl]
  cases c.unit.get? f.index with
  | none => exact ⟨List.Sublist.slnil, fun _ _ => rfl⟩
  | some e =>
    exact ⟨visitReports_listing f e s.ledger h,
      fun _ hk => filter_visitReports_listing c f e s.ledger hk⟩

end WalkContext

/-- Two walks that have come to the same point, the second with more tags listed. -/
structure InStep (s s' : WalkState) : Prop where
  ledger : s'.ledger = s.ledger
  entries : s'.stats.entries = s.stats.entries
  duplicates : s'.stats.duplicateChildren = s.stats.duplicateChildren
  truncated : s'.stats.truncated = s.stats.truncated
  unsupported : s.stats.unsupportedTypes ≤ s'.stats.unsupportedTypes

namespace InStep

variable {s s' : WalkState} {c : WalkContext} {tags : List String}

theorem refl (s : WalkState) : InStep s s := ⟨rfl, rfl, rfl, rfl, Nat.le_refl _⟩

theorem visit (hs : InStep s s') (h : ∀ t ∈ c.options.allowedTags, t ∈ tags) (f : WalkFrame) :
    InStep (c.visit f s).1 ((c.listing tags).visit f s').1 := by
  cases he : c.unit.get? f.index with
  | none =>
    have he' : (c.listing tags).unit.get? f.index = none := he
    rwa [c.visit_of_none s he, (c.listing tags).visit_of_none s' he']
  | some e =>
    have he' : (c.listing tags).unit.get? f.index = some e := he
    rw [c.visit_eq s he, (c.listing tags).visit_eq s' he', hs.ledger]
    refine ⟨rfl, ?_, ?_, ?_, Nat.add_le_add hs.unsupported ?_⟩
    · exact congrArg (· + 1) hs.entries
    · exact congrArg (· + _) hs.duplicates
    · exact congrArg (· + _) hs.truncated
    · -- Where an unsupported type counts with fewer tags, it counts with more.
      split
      · next hcount =>
        rw [Bool.and_eq_true] at hcount
        have hmore := Bool.and_eq_true_iff.2 ⟨WalkOptions.allows_listing h hcount.1, hcount.2⟩
        exact Nat.le_of_eq (if_pos hmore).symm
      · exact Nat.zero_le _

/-- Which children are visited next does not depend on the list. -/
theorem visit_snd (hs : InStep s s') (f : WalkFrame) :
    ((c.listing tags).visit f s').2 = (c.visit f s).2 := by
  rw [WalkContext.visit_snd, WalkContext.visit_snd, hs.ledger]
  rfl

theorem visits (hs : InStep s s') (h : ∀ t ∈ c.options.allowedTags, t ∈ tags)
    (frames : List WalkFrame) : (c.listing tags).visits frames s' = c.visits frames s := by
  fun_induction c.visits frames s generalizing s' with
  | case1 s => rw [WalkContext.visits_nil]
  | case2 f rest s ih => rw [WalkContext.visits_cons, hs.visit_snd, ih (hs.visit h f)]

theorem run (hs : InStep s s') (h : ∀ t ∈ c.options.allowedTags, t ∈ tags)
    (frames : List WalkFrame) : InStep (c.run frames s) ((c.listing tags).run frames s') := by
  fun_induction c.run frames s generalizing s' with
  | case1 s => rwa [WalkContext.run_nil]
  | case2 f rest s ih =>
    rw [WalkContext.run_cons, hs.visit_snd]
    exact ih (hs.visit h f)

variable {b : Corpus} {o : WalkOptions}

theorem unitVisits (hs : InStep s s') (h : ∀ t ∈ o.allowedTags, t ∈ tags)
    (units : List (DebugUnit × Nat)) :
    b.unitVisits (o.listing tags) units s' = b.unitVisits o units s := by
  induction units generalizing s s' with
  | nil => rfl
  | cons x units ih =>
    have hvisits := hs.visits (c := b.context o x) h (x.1.roots.map (b.context o x).frameAt)
    have hrun := hs.run (c := b.context o x) h (x.1.roots.map (b.context o x).frameAt)
    exact congrArg₂ (List.map (Prod.mk x) · ++ ·) hvisits (ih hrun)

theorem foldl_encounter (hs : InStep s s') (h : ∀ t ∈ o.allowedTags, t ∈ tags)
    (xs : List Corpus.Encounter) :
    InStep (xs.foldl (b.encounter o) s) (xs.foldl (b.encounter (o.listing tags)) s') := by
  induction xs generalizing s s' with
  | nil => exact hs
  | cons x xs ih => exact ih (hs.visit (c := b.context o x.1) h x.2)

theorem reports (hs : InStep s s') (h : ∀ t ∈ o.allowedTags, t ∈ tags) (xs : List Corpus.Encounter) :
    (b.reports o xs s).Sublist (b.reports (o.listing tags) xs s') ∧
      ∀ k : Source, k.signature?.isSome = true →
        ((b.reports o xs s).filter fun x => x.1 = k) =
          (b.reports (o.listing tags) xs s').filter fun x => x.1 = k := by
  induction xs generalizing s s' with
  | nil => exact ⟨List.Sublist.slnil, fun _ _ => rfl⟩
  | cons x xs ih =>
    obtain ⟨hrest, hrest'⟩ := ih (hs.visit (c := b.context o x.1) h x.2)
    obtain ⟨hfirst, hfirst'⟩ := WalkContext.reportsAt_listing (c := b.context o x.1) x.2 h hs.ledger
    refine ⟨hfirst.append hrest, fun k hk => ?_⟩
    rw [Corpus.reports, Corpus.reports, List.filter_append, List.filter_append]
    exact congrArg₂ (· ++ ·) (hfirst' k hk) (hrest' k hk)

end InStep

namespace Corpus

/-- With more tags listed a walk visits the same entries in the same order, comes to the same ledger
and, apart from types of reported entries, to the same counts. It reports more facts in between, none
of which numbers a parameter or tells the version or a language. -/
theorem walkAll_listing (b : Corpus) (o : WalkOptions) (tags : List String)
    (h : ∀ t ∈ o.allowedTags, t ∈ tags) (l : Ledger) :
    let few := b.walkAll o { ledger := l }
    let more := b.walkAll (o.listing tags) { ledger := l }
    b.visits (o.listing tags) { ledger := l } = b.visits o { ledger := l } ∧
    InStep few more ∧
    few.facts.toList = (b.trace o { ledger := l }).map Prod.snd ∧
    more.facts.toList = (b.trace (o.listing tags) { ledger := l }).map Prod.snd ∧
    (∀ k sig, Source.signature? k = some sig →
      ((b.trace o { ledger := l }).filter fun x => x.1 = k) =
          ((b.trace (o.listing tags) { ledger := l }).filter fun x => x.1 = k) ∧
        ((∀ t ∈ b.sites, t.tag ≠ sig.1) → few.facts.toList.filter (Fact.hasSignature sig) =
          more.facts.toList.filter (Fact.hasSignature sig))) ∧
    few.facts.toList.Sublist more.facts.toList := by
  have hvisits : b.visits (o.listing tags) { ledger := l } = b.visits o { ledger := l } :=
    (InStep.refl _).unitVisits h _
  obtain ⟨hsublist, hfilter⟩ := (InStep.refl { ledger := l }).reports (b := b) h
    (b.visits o { ledger := l })
  have hfacts (o' : WalkOptions) : (b.walkAll o' { ledger := l }).facts.toList =
      (b.trace o' { ledger := l }).map Prod.snd := by
    rw [facts_walkAll]
    rfl
  have htrace : b.trace (o.listing tags) { ledger := l } =
      b.reports (o.listing tags) (b.visits o { ledger := l }) { ledger := l } := by
    rw [trace, hvisits]
  refine ⟨hvisits, ?_, hfacts _, hfacts _, fun k sig hk => ?_, ?_⟩
  · rw [walkAll_eq_foldl_encounter, walkAll_eq_foldl_encounter, hvisits]
    exact (InStep.refl _).foldl_encounter h _
  · have hsame : ((b.trace o { ledger := l }).filter fun x => x.1 = k) =
        (b.trace (o.listing tags) { ledger := l }).filter fun x => x.1 = k := by
      rw [htrace]
      exact hfilter k (by rw [hk]; rfl)
    refine ⟨hsame, fun ht => ?_⟩
    rw [filter_hasSignature hk ht, filter_hasSignature hk ht, hsame]
  · rw [hfacts, hfacts, htrace]
    exact hsublist.map Prod.snd

theorem walkAll_listing_small :
    let tags := ["dw_tag_function", "dw_tag_compile_unit"]
    let few := small.walkAll functionsOnly {}
    let more := small.walkAll (functionsOnly.listing tags) {}
    (∀ t ∈ functionsOnly.allowedTags, t ∈ tags) ∧ InStep few more ∧
      few.facts.toList.filter (Fact.hasSignature ("language", 2)) =
        more.facts.toList.filter (Fact.hasSignature ("language", 2)) ∧
      few.facts.toList.Sublist more.facts.toList := by
  have htags : ∀ t ∈ functionsOnly.allowedTags, t ∈ ["dw_tag_function", "dw_tag_compile_unit"] := by
    decide
  obtain ⟨-, hstep, -, -, hsources, hsublist⟩ := walkAll_listing small functionsOnly
    ["dw_tag_function", "dw_tag_compile_unit"] htags {}
  exact ⟨htags, hstep, (hsources .language _ rfl).2 (by decide +kernel), hsublist⟩

end Corpus

end ElfFacts
