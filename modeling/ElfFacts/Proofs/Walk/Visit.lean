import ElfFacts.Walk.Worklist

/-!
# The outcome of a visit

A visit of an entry adds a list of facts to those before it, records the pairs of the entry and its
children, and gives back the children whose pair was new. `newFrames` tells which these are from the
recorded pairs alone; the lemmas below say what each part of the state is after a visit.
-/
namespace ElfFacts

attribute [ext] WalkState

namespace WalkState

theorem reportAll_eq (s : WalkState) (fs : List Fact) :
    s.reportAll fs = { s with facts := s.facts ++ fs.toArray } := by
  induction fs generalizing s with
  | nil => simp [reportAll]
  | cons f fs ih =>
    change (s.report f).reportAll fs = _
    rw [ih]
    simp [report]

@[simp] theorem reportAll_ledger (s : WalkState) (fs : List Fact) :
    (s.reportAll fs).ledger = s.ledger := by rw [reportAll_eq]

@[simp] theorem reportAll_stats (s : WalkState) (fs : List Fact) :
    (s.reportAll fs).stats = s.stats := by rw [reportAll_eq]

@[simp] theorem reportAll_facts (s : WalkState) (fs : List Fact) :
    (s.reportAll fs).facts.toList = s.facts.toList ++ fs := by rw [reportAll_eq]; simp

end WalkState

namespace Ledger

/-- The frames whose pair with an entry is new. Each of them is recorded before the next is met. -/
def newFrames (parent : Identity) : Ledger → List WalkFrame → List WalkFrame
  | _, [] => []
  | l, g :: rest =>
    if l.hasChild parent g.id then newFrames parent l rest
    else g :: newFrames parent (l.addChild parent g.id) rest

def addChildren (l : Ledger) (parent : Identity) (frames : List WalkFrame) : Ledger :=
  frames.foldl (fun l g => l.addChild parent g.id) l

@[simp] theorem addChildren_nil (l : Ledger) (p : Identity) : l.addChildren p [] = l := rfl

@[simp] theorem addChildren_cons (l : Ledger) (p : Identity) (g : WalkFrame)
    (frames : List WalkFrame) :
    l.addChildren p (g :: frames) = (l.addChild p g.id).addChildren p frames := rfl

@[simp] theorem addChildren_registry (l : Ledger) (p : Identity) (frames : List WalkFrame) :
    (l.addChildren p frames).registry = l.registry := by
  induction frames generalizing l with
  | nil => rfl
  | cons g frames ih => rw [addChildren_cons, ih]; rfl

@[simp] theorem addChildren_languages (l : Ledger) (p : Identity) (frames : List WalkFrame) :
    (l.addChildren p frames).languages = l.languages := by
  induction frames generalizing l with
  | nil => rfl
  | cons g frames ih => rw [addChildren_cons, ih]; rfl

@[simp] theorem addChildren_sawCompileUnit (l : Ledger) (p : Identity) (frames : List WalkFrame) :
    (l.addChildren p frames).sawCompileUnit = l.sawCompileUnit := by
  induction frames generalizing l with
  | nil => rfl
  | cons g frames ih => rw [addChildren_cons, ih]; rfl

theorem newFrames_sublist (l : Ledger) (p : Identity) (frames : List WalkFrame) :
    (l.newFrames p frames).Sublist frames := by
  induction frames generalizing l with
  | nil => exact List.Sublist.slnil
  | cons g frames ih =>
    rw [newFrames]
    split
    · exact (ih l).cons g
    · exact (ih _).cons_cons g

theorem length_newFrames_le (l : Ledger) (p : Identity) (frames : List WalkFrame) :
    (l.newFrames p frames).length ≤ frames.length :=
  (l.newFrames_sublist p frames).length_le

/-- A frame that is left out has had its pair recorded. -/
theorem hasChild_record (l : Ledger) (p q r : Identity) (frames : List WalkFrame) :
    (l.addChildren p (l.newFrames p frames)).hasChild q r ↔
      l.hasChild q r ∨ p = q ∧ ∃ g ∈ frames, g.id = r := by
  induction frames generalizing l with
  | nil => simp [newFrames]
  | cons g frames ih =>
    have hg : (∃ h ∈ g :: frames, h.id = r) ↔ g.id = r ∨ ∃ h ∈ frames, h.id = r := by simp
    rw [newFrames, hg, and_or_left]
    split
    · next hc =>
      rw [ih]
      constructor
      · rintro (h | h) <;> simp [h]
      · rintro (h | ⟨rfl, rfl⟩ | h) <;> simp [*]
    · rw [addChildren_cons, ih, hasChild_addChild, Bool.or_eq_true, beq_iff_eq, Prod.mk.injEq,
        or_assoc, or_left_comm]

/-- Nothing is left out where no pair is recorded and the identities differ. -/
theorem newFrames_eq_self (l : Ledger) (p : Identity) (frames : List WalkFrame)
    (hd : (frames.map (·.id)).Nodup) (hl : ∀ g ∈ frames, l.hasChild p g.id = false) :
    l.newFrames p frames = frames := by
  induction frames generalizing l with
  | nil => rfl
  | cons g frames ih =>
    rw [List.map_cons, List.nodup_cons] at hd
    have hg : l.hasChild p g.id = false := hl g (List.mem_cons_self ..)
    rw [newFrames, hg, if_neg Bool.false_ne_true, ih _ hd.2]
    intro h hh
    have hne : g.id ≠ h.id := fun he => hd.1 (he ▸ List.mem_map_of_mem hh)
    simp [hasChild_addChild, hne, hl h (List.mem_cons_of_mem _ hh)]

end Ledger

namespace WalkContext

def tagAt (c : WalkContext) (index : Nat) : String :=
  ((c.unit.get? index).map fun e => Tag.normalize e.tag).getD ""

def childFrame? (c : WalkContext) (f : WalkFrame) (index : Nat) : Option WalkFrame :=
  (c.unit.get? index).map fun child => ⟨index, c.idOf child (some f.id), f.depth + 1⟩

/-- The children of an entry that the depth limit lets be visited. -/
def offspring (c : WalkContext) (f : WalkFrame) : List WalkFrame :=
  match c.unit.get? f.index with
  | none => []
  | some e => (c.reachable f e).filterMap (c.childFrame? f)

/-- What is reported about new children, from a number of parameters on. -/
def relationFacts (c : WalkContext) (f : WalkFrame) (tag : String) : Nat → List WalkFrame → List Fact
  | _, [] => []
  | n, g :: rest =>
    c.childFacts f tag (c.tagAt g.index) g.id n ++
      relationFacts c f tag (if isParameter tag (c.tagAt g.index) then n + 1 else n) rest

/-- The loop over the children, given the frames that stand for them. -/
theorem foldl_meetChild (c : WalkContext) (f : WalkFrame) (tag : String) (kids : List Nat)
    (b : Brood) :
    let frames := kids.filterMap (c.childFrame? f)
    let new := b.state.ledger.newFrames f.id frames
    let b' := kids.foldl (c.meetChild f tag) b
    b'.state.ledger = b.state.ledger.addChildren f.id new ∧
      b'.state.facts.toList = b.state.facts.toList ++ c.relationFacts f tag b.parameters new ∧
      b'.state.stats = { b.state.stats with
        duplicateChildren := b.state.stats.duplicateChildren + (frames.length - new.length) } ∧
      b'.fresh.toList = b.fresh.toList ++ new := by
  induction kids generalizing b with
  | nil => simp [Ledger.newFrames, relationFacts]
  | cons i kids ih =>
    simp only [List.foldl_cons]
    rcases c.meetChild_cases f tag b i with ⟨he, hm⟩ | ⟨child, he, hcase⟩
    · have hf : c.childFrame? f i = none := by simp only [childFrame?, he, Option.map_none]
      rw [hm, List.filterMap_cons_none hf]
      exact ih b
    · have hf : c.childFrame? f i = some ⟨i, c.idOf child (some f.id), f.depth + 1⟩ := by
        simp only [childFrame?, he, Option.map_some]
      rw [List.filterMap_cons_some hf, Ledger.newFrames]
      have hlen := b.state.ledger.length_newFrames_le f.id (kids.filterMap (c.childFrame? f))
      rcases hcase with ⟨hc, hm⟩ | ⟨hc, hm⟩
      · obtain ⟨hl, hfacts, hstats, hfresh⟩ := ih (skipChild b)
        rw [hm, if_pos hc]
        refine ⟨hl, hfacts, ?_, hfresh⟩
        rw [hstats]
        simp only [skipChild, countDuplicate, List.length_cons]
        congr 1
        omega
      · have htag : c.tagAt i = Tag.normalize child.tag := by
          simp only [tagAt, he, Option.map_some, Option.getD_some]
        generalize hb : c.adoptChild f tag (Tag.normalize child.tag) i
          (c.idOf child (some f.id)) _ = b' at hm
        have hledger :
            b'.state.ledger = b.state.ledger.addChild f.id (c.idOf child (some f.id)) := by
          rw [← hb]
          simp only [adoptChild, Brood.withLedger, WalkState.reportAll_ledger]
        obtain ⟨hl, hfacts, hstats, hfresh⟩ := ih b'
        rw [hm, hc, if_neg Bool.false_ne_true]
        rw [hledger] at hl hfacts hstats hfresh
        refine ⟨hl, ?_, ?_, ?_⟩
        · rw [hfacts, ← hb]
          simp only [adoptChild, Brood.withLedger, WalkState.reportAll_facts, relationFacts, htag,
            List.append_assoc]
        · rw [hstats, ← hb]
          simp only [adoptChild, Brood.withLedger, WalkState.reportAll_stats, List.length_cons,
            Nat.add_sub_add_right]
        · rw [hfresh, ← hb]
          simp only [adoptChild, Brood.withLedger, Array.toList_push, List.append_assoc,
            List.singleton_append]

def visitFacts (c : WalkContext) (f : WalkFrame) (e : DebugEntry) (l : Ledger) : List Fact :=
  let tag := Tag.normalize e.tag
  (if c.options.allows tag then [existenceFact c.path tag f.id] else []) ++
    c.relationFacts f tag 0 (l.newFrames f.id (c.offspring f)) ++
    (if c.options.allows tag then c.attributeFacts f e tag (c.typePart f e tag).1 else []) ++
    (if Tag.kind tag = .compileUnit then c.unitFacts e l else [])

def visitLedger (c : WalkContext) (f : WalkFrame) (e : DebugEntry) (l : Ledger) : Ledger :=
  let visited := (l.addChildren f.id (l.newFrames f.id (c.offspring f))).register f.id
    (c.unitIndex, f.index)
  if Tag.kind (Tag.normalize e.tag) = .compileUnit then recordUnit e visited else visited

def visitStats (c : WalkContext) (f : WalkFrame) (e : DebugEntry) (l : Ledger)
    (stats : WalkStats) : WalkStats where
  entries := stats.entries + 1
  duplicateChildren := stats.duplicateChildren +
    ((c.offspring f).length - (l.newFrames f.id (c.offspring f)).length)
  truncated := stats.truncated + if f.depth < c.options.maxDepth then 0 else e.children.size
  unsupportedTypes := stats.unsupportedTypes +
    if c.options.allows (Tag.normalize e.tag) && (c.typePart f e (Tag.normalize e.tag)).2
    then 1 else 0

theorem registry_visitLedger (c : WalkContext) (f : WalkFrame) (e : DebugEntry) (l : Ledger) :
    (c.visitLedger f e l).registry = l.registry.insert f.id (c.unitIndex, f.index) := by
  simp only [visitLedger]
  split <;> simp [recordUnit, Ledger.register]

theorem countTruncated_eq (c : WalkContext) (f : WalkFrame) (e : DebugEntry) (s : WalkState) :
    c.countTruncated f e s = { s with stats := { s.stats with
      truncated := s.stats.truncated +
        if f.depth < c.options.maxDepth then 0 else e.children.size } } := by
  unfold countTruncated
  split <;> rfl

theorem reportAttributes_eq (c : WalkContext) (f : WalkFrame) (e : DebugEntry) (tag : String)
    (s : WalkState) :
    c.reportAttributes f e tag s =
      { ledger := s.ledger
        facts := s.facts ++ (c.attributeFacts f e tag (c.typePart f e tag).1).toArray
        stats := { s.stats with unsupportedTypes :=
          s.stats.unsupportedTypes + if (c.typePart f e tag).2 then 1 else 0 } } := by
  simp only [reportAttributes, WalkState.reportAll_eq]
  split <;> rfl

theorem unitFacts_congr (c : WalkContext) (e : DebugEntry) {l l' : Ledger}
    (hlang : l.languages = l'.languages) (hsaw : l.sawCompileUnit = l'.sawCompileUnit) :
    c.unitFacts e l = c.unitFacts e l' := by
  simp only [unitFacts, newLanguage?, hlang, hsaw]

/-- All that a visit does, by the entry and the ledger before it. -/
theorem visit_eq (c : WalkContext) {f : WalkFrame} {e : DebugEntry} (s : WalkState)
    (he : c.unit.get? f.index = some e) :
    c.visit f s =
      ({ ledger := c.visitLedger f e s.ledger
         stats := c.visitStats f e s.ledger s.stats
         facts := s.facts ++ (c.visitFacts f e s.ledger).toArray },
        s.ledger.newFrames f.id (c.offspring f)) := by
  have hoff : (c.reachable f e).filterMap (c.childFrame? f) = c.offspring f := by
    simp only [offspring, he]
  simp only [visit, he, visitEntry]
  generalize hs : c.countTruncated f e _ = s₀
  have hopen : s₀ = { ledger := s.ledger
                      facts := s.facts ++ (if c.options.allows (Tag.normalize e.tag)
                        then [existenceFact c.path (Tag.normalize e.tag) f.id] else []).toArray
                      stats := { s.stats with
                        entries := s.stats.entries + 1
                        truncated := s.stats.truncated +
                          if f.depth < c.options.maxDepth then 0 else e.children.size } } := by
    rw [← hs, countTruncated_eq]
    split <;> simp [countEntry, WalkState.report]
  obtain ⟨hl, hf, hst, hfresh⟩ := c.foldl_meetChild f (Tag.normalize e.tag) (c.reachable f e)
    { state := s₀ }
  generalize (c.reachable f e).foldl (c.meetChild f (Tag.normalize e.tag)) { state := s₀ } = b
    at hl hf hst hfresh
  subst hopen
  rw [hoff] at hl hf hst hfresh
  have hunit : c.unitFacts e (b.state.ledger.register f.id (c.unitIndex, f.index)) =
      c.unitFacts e s.ledger := by
    apply c.unitFacts_congr <;> simp [hl, Ledger.register]
  refine Prod.ext (WalkState.ext ?_ ?_ (Array.ext' ?_)) (by simpa using hfresh)
  · simp only [visitLedger, reportAttributes_eq, reportUnit, WalkState.reportAll_eq, ← hl]
    split <;> split <;> rfl
  · simp only [visitStats, reportAttributes_eq, reportUnit, WalkState.reportAll_eq]
    cases hallowed : c.options.allows (Tag.normalize e.tag) <;> split <;> simp [hst]
  · simp only [visitFacts, reportAttributes_eq, reportUnit, WalkState.reportAll_eq]
    cases hallowed : c.options.allows (Tag.normalize e.tag) <;> split <;> simp [hf, hunit, hallowed]

theorem visit_of_none (c : WalkContext) {f : WalkFrame} (s : WalkState)
    (he : c.unit.get? f.index = none) : c.visit f s = (s, []) := by
  simp only [visit, he]

theorem offspring_of_none (c : WalkContext) {f : WalkFrame} (he : c.unit.get? f.index = none) :
    c.offspring f = [] := by
  simp only [offspring, he]

/-- A visit hands on the children whose pair it has recorded first. -/
theorem visit_snd (c : WalkContext) (f : WalkFrame) (s : WalkState) :
    (c.visit f s).2 = s.ledger.newFrames f.id (c.offspring f) := by
  cases he : c.unit.get? f.index with
  | none => rw [c.visit_of_none s he, c.offspring_of_none he, Ledger.newFrames]
  | some e => rw [c.visit_eq s he]

theorem hasChild_visit (c : WalkContext) (f : WalkFrame) (s : WalkState) (p q : Identity) :
    (c.visit f s).1.ledger.hasChild p q ↔
      s.ledger.hasChild p q ∨ f.id = p ∧ ∃ g ∈ c.offspring f, g.id = q := by
  cases he : c.unit.get? f.index with
  | none => simp [c.visit_of_none s he, c.offspring_of_none he]
  | some e =>
    rw [c.visit_eq s he, ← Ledger.hasChild_record]
    simp only [visitLedger]
    split <;> rfl

end WalkContext

end ElfFacts
