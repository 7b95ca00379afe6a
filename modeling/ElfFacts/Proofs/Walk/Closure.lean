import ElfFacts.Proofs.Walk.Calls
import ElfFacts.Proofs.Walk.Growth

/-!
# Relations are backed by visits

A relation between a parent and a child is reported when the parent is visited, and the child is
only put on the stack then. The child is visited all the same before the call is over, with
everything that was on the stack above it in between. `Backed` says what stands behind a relation:
the visits of the two entries, and what is reported about them before and after.
-/
namespace ElfFacts

theorem append_eq_append_cons {α : Type} {as bs cs ds : List α} {a : α}
    (h : as ++ bs = cs ++ a :: ds) :
    (∃ es, cs = as ++ es ∧ bs = es ++ a :: ds) ∨ ∃ es, as = cs ++ a :: es ∧ ds = es ++ bs := by
  rcases List.append_eq_append_iff.1 h with ⟨es, rfl, hb⟩ | ⟨es, rfl, ha⟩
  · exact .inl ⟨es, rfl, hb⟩
  · cases es with
    | nil => exact .inl ⟨[], by rw [List.append_nil, List.append_nil], ha.symm⟩
    | cons e es =>
      obtain ⟨rfl, rfl⟩ := List.cons.inj ha
      exact .inr ⟨es, rfl, rfl⟩

theorem PairKind.pair?_existenceFact (k : PairKind) {path tag : String} {id : Identity}
    (ht : Tag.Regular tag) : k.pair? (WalkContext.existenceFact path tag id) = none :=
  k.pair?_of_regular ht (by simp [WalkContext.existenceFact])

namespace WalkContext

variable {c : WalkContext} {f g : WalkFrame} {d : DebugEntry}

theorem mem_offspring (hd : c.unit.get? f.index = some d) (hg : g ∈ c.offspring f) :
    g.index ∈ d.children ∧ ∃ e, c.unit.get? g.index = some e := by
  simp only [offspring, hd, List.mem_filterMap] at hg
  obtain ⟨i, hi, hg⟩ := hg
  obtain ⟨e, he, rfl⟩ := Option.map_eq_some_iff.1 hg
  refine ⟨?_, e, he⟩
  unfold reachable at hi
  split at hi
  · exact Array.mem_toList_iff.1 hi
  · cases hi

theorem existenceFact_mem_visitFacts (l : Ledger)
    (hallowed : c.options.allows (Tag.normalize d.tag) = true) :
    existenceFact c.path (Tag.normalize d.tag) f.id ∈ c.visitFacts f d l := by
  simp [visitFacts, hallowed]

theorem exists_newFrame_of_pair {k : PairKind} {l : Ledger} {x : Fact} {p q : Identity}
    (ht : Tag.Regular (Tag.normalize d.tag)) (hx : x ∈ c.visitFacts f d l)
    (hpair : k.pair? x = some (p, q)) :
    f.id = p ∧ ∃ g ∈ l.newFrames f.id (c.offspring f), g.id = q := by
  have hmem : (p, q) ∈ k.pairs (c.visitFacts f d l) := List.mem_filterMap.2 ⟨x, hx, hpair⟩
  obtain ⟨g, hg, heq⟩ := List.mem_map.1 ((c.pairs_visitFacts k f d l ht).subset hmem)
  exact ⟨congrArg Prod.fst heq, g, hg, congrArg Prod.snd heq⟩

theorem existenceFact_mem_before {k : PairKind} {l : Ledger} {x : Fact} {before after : List Fact}
    {p q : Identity} (ht : Tag.Regular (Tag.normalize d.tag))
    (hsplit : c.visitFacts f d l = before ++ x :: after) (hpair : k.pair? x = some (p, q))
    (hallowed : c.options.allows (Tag.normalize d.tag) = true) :
    existenceFact c.path (Tag.normalize d.tag) f.id ∈ before := by
  rw [visitFacts, if_pos hallowed, List.append_assoc, List.append_assoc, List.singleton_append]
    at hsplit
  cases before with
  | nil =>
    rw [← (List.cons.inj hsplit).1, k.pair?_existenceFact ht] at hpair
    cases hpair
  | cons y before =>
    rw [(List.cons.inj hsplit).1]
    exact List.mem_cons_self ..

end WalkContext

namespace Corpus

open WalkContext (existenceFact relationFact)

variable {b : Corpus} {o : WalkOptions} {u : DebugUnit × Nat} {f g : WalkFrame} {d e : DebugEntry}

/-- An entry and a child of it are both visited. If its tag is listed, the entry has been reported
before; if the tag of the child is, the child is reported afterwards. -/
structure Backed (b : Corpus) (o : WalkOptions) (visits : List Encounter) (before after : List Fact)
    (u : DebugUnit × Nat) (f g : WalkFrame) (d e : DebugEntry) : Prop where
  parentVisited : (u, f) ∈ visits
  childVisited : (u, g) ∈ visits
  parentEntry : u.1.get? f.index = some d
  childEntry : u.1.get? g.index = some e
  child : g.index ∈ d.children
  parentBefore : o.allows (Tag.normalize d.tag) = true →
    existenceFact b.pathText (Tag.normalize d.tag) f.id ∈ before
  childAfter : o.allows (Tag.normalize e.tag) = true →
    existenceFact b.pathText (Tag.normalize e.tag) g.id ∈ after

theorem Backed.later {visits : List Encounter} {before after : List Fact}
    (h : b.Backed o visits before after u f g d e) (x : Encounter) (facts : List Fact) :
    b.Backed o (x :: visits) (facts ++ before) after u f g d e where
  parentVisited := List.mem_cons_of_mem x h.parentVisited
  childVisited := List.mem_cons_of_mem x h.childVisited
  parentEntry := h.parentEntry
  childEntry := h.childEntry
  child := h.child
  parentBefore hallowed := List.mem_append_right facts (h.parentBefore hallowed)
  childAfter := h.childAfter

theorem existenceFact_mem_reports {xs : List Encounter} {x : Encounter} (hx : x ∈ xs)
    (he : x.1.1.get? x.2.index = some e) (hallowed : o.allows (Tag.normalize e.tag) = true)
    (s : WalkState) :
    existenceFact b.pathText (Tag.normalize e.tag) x.2.id ∈ (b.reports o xs s).map Prod.snd := by
  induction xs generalizing s with
  | nil => cases hx
  | cons y xs ih =>
    rw [reports, List.map_append, List.mem_append]
    rcases List.mem_cons.1 hx with rfl | hx
    · rw [map_snd_reportsAt he]
      exact .inl (WalkContext.existenceFact_mem_visitFacts _ hallowed)
    · exact .inr (ih hx _)

theorem backed_of_visit {k : PairKind} {xs : List Encounter} {y : Encounter} {s : WalkState}
    (hnext : ∀ g ∈ ((b.context o y.1).visit y.2 s).2, (y.1, g) ∈ xs) (hunit : y.1.1 ∈ b.units)
    (ht : ∀ t ∈ b.sites, Tag.Regular t.tag) {before after : List Fact} {x : Fact} {p q : Identity}
    (hsplit : ((b.context o y.1).reportsAt y.2 s).map Prod.snd = before ++ x :: after)
    (hpair : k.pair? x = some (p, q)) :
    ∃ u f g d e, b.Backed o (y :: xs) before
      (after ++ (b.reports o xs (b.encounter o s y)).map Prod.snd) u f g d e ∧
        f.id = p ∧ g.id = q := by
  obtain ⟨u, f⟩ := y
  cases hd : u.1.get? f.index with
  | none =>
    have hd' : (b.context o u).unit.get? f.index = none := hd
    simp [WalkContext.reportsAt, hd'] at hsplit
  | some d =>
    rw [map_snd_reportsAt (x := (u, f)) hd] at hsplit
    have hregular : Tag.Regular (Tag.normalize d.tag) := tag_of_sites ht hunit hd
    have hx : x ∈ (b.context o u).visitFacts f d s.ledger := by
      rw [hsplit]
      exact List.mem_append_right before (List.mem_cons_self ..)
    obtain ⟨hp, g, hg, hq⟩ := WalkContext.exists_newFrame_of_pair hregular hx hpair
    obtain ⟨hchild, e, he⟩ :=
      WalkContext.mem_offspring hd ((s.ledger.newFrames_sublist _ _).subset hg)
    have hvisited : (u, g) ∈ xs := by
      rw [WalkContext.visit_snd] at hnext
      exact hnext g hg
    refine ⟨u, f, g, d, e, ?_, hp, hq⟩
    exact {
      parentVisited := List.mem_cons_self ..
      childVisited := List.mem_cons_of_mem _ hvisited
      parentEntry := hd
      childEntry := he
      child := hchild
      parentBefore := WalkContext.existenceFact_mem_before hregular hsplit hpair
      childAfter := fun hallowed => List.mem_append_right after
        (existenceFact_mem_reports hvisited he hallowed _) }

/-- What stands behind a relation that a row of visits reports, if all that is handed on is
visited. -/
theorem Complete.backed {k : PairKind} {xs : List Encounter} {s : WalkState}
    (hxs : b.Complete o xs s) (hunits : ∀ x ∈ xs, x.1.1 ∈ b.units)
    (ht : ∀ t ∈ b.sites, Tag.Regular t.tag) {before after : List Fact} {x : Fact} {p q : Identity}
    (hsplit : (b.reports o xs s).map Prod.snd = before ++ x :: after)
    (hpair : k.pair? x = some (p, q)) :
    ∃ u f g d e, b.Backed o xs before after u f g d e ∧ f.id = p ∧ g.id = q := by
  induction xs generalizing s before with
  | nil => simp [reports] at hsplit
  | cons y xs ih =>
    obtain ⟨hnext, hrest⟩ := hxs
    rw [reports, List.map_append] at hsplit
    rcases append_eq_append_cons hsplit with ⟨before', rfl, hlater⟩ | ⟨after', hfirst, rfl⟩
    · obtain ⟨u, f, g, d, e, hbacked, hids⟩ :=
        ih hrest (fun z hz => hunits z (List.mem_cons_of_mem y hz)) hlater
      exact ⟨u, f, g, d, e, hbacked.later y _, hids⟩
    · exact backed_of_visit hnext (hunits y (List.mem_cons_self ..)) ht hfirst hpair

theorem lookup?_call_of_visited {s : WalkState} {w : WalkCall} (hf : (u, f) ∈ b.callVisits s w)
    (hd : u.1.get? f.index = some d) : ((b.call s w).ledger.lookup? f.id).isSome = true := by
  have hknown := (known_foldl_encounter (b := b) (o := w.options) hf hd s).registered
  rw [← call_eq_foldl_encounter] at hknown
  rwa [Ledger.lookup?, ← Std.HashMap.mem_iff_isSome_getElem?]

/-- For every relation and every number of a parameter that a call reports, from whatever ledger it
starts, the call visits the parent and the child, and both are in the ledger at its end. If the
parent is reported at all, it has been reported before in the call; if the child is, it is reported
afterwards. -/
theorem call_closed {b : Corpus} (ht : ∀ t ∈ b.sites, Tag.Regular t.tag) (s : WalkState)
    (w : WalkCall) :
    ∃ new, (b.call s w).facts.toList = s.facts.toList ++ new ∧
      ∀ (k : PairKind) before x after p q, new = before ++ x :: after → k.pair? x = some (p, q) →
        (∃ u f g d e, b.Backed w.options (b.callVisits s w) before after u f g d e ∧
          f.id = p ∧ g.id = q) ∧
        ((b.call s w).ledger.lookup? p).isSome = true ∧
        ((b.call s w).ledger.lookup? q).isSome = true := by
  refine ⟨_, facts_call s w, fun k before x after p q hsplit hpair => ?_⟩
  have hunits : ∀ x ∈ b.callVisits s w, x.1.1 ∈ b.units := fun x hx =>
    Array.mem_of_getElem? (unit_of_mem_callVisits hx)
  obtain ⟨u, f, g, d, e, hbacked, rfl, rfl⟩ :=
    (complete_callVisits s w).backed hunits ht hsplit hpair
  exact ⟨⟨u, f, g, d, e, hbacked, rfl, rfl⟩,
    lookup?_call_of_visited hbacked.parentVisited hbacked.parentEntry,
    lookup?_call_of_visited hbacked.childVisited hbacked.childEntry⟩

def smallUnit : DebugUnit := small.units.getD 0 (.empty 0)

/-- The relation of the unit, which is not reported itself, with the function in it. -/
theorem exists_relationFact_small :
    ∃ p q, relationFact p q ∈ (small.call {} (.below functionsOnly 0 0 none)).facts.toList := by
  obtain ⟨id, rest, hvisits⟩ : ∃ id rest, small.callVisits {} (.below functionsOnly 0 0 none) =
      ((smallUnit, 0), ⟨0, id, 0⟩) :: rest :=
    ⟨_, _, congrArg (List.map (Prod.mk (smallUnit, 0))) (WalkContext.visits_cons _ _ [] {})⟩
  let c := small.context functionsOnly (smallUnit, 0)
  let g : WalkFrame := ⟨1, c.idOf (smallUnit.entryAt 1) (some id), 1⟩
  have hnew : Ledger.newFrames id {} (c.offspring ⟨0, id, 0⟩) = [g] :=
    Ledger.newFrames_eq_self {} id [g] (List.nodup_singleton _)
      fun _ _ => Std.HashSet.contains_empty
  have hlisted : c.options.allows (c.tagAt 1) = true := by decide
  have hrelation : relationFact id g.id ∈ c.visitFacts ⟨0, id, 0⟩ (smallUnit.entryAt 0) {} := by
    apply List.mem_of_mem_filter (p := Fact.isRelation)
    rw [WalkContext.filter_isRelation_visitFacts _ _ _ _ (by decide), hnew]
    exact List.mem_map_of_mem (List.mem_filter.2
      ⟨List.mem_singleton_self g, Bool.or_eq_true_iff.2 (.inr hlisted)⟩)
  exact ⟨id, g.id, mem_facts_call_of_first hvisits rfl hrelation⟩

theorem call_closed_small :
    let w : WalkCall := .below functionsOnly 0 0 none
    ∃ before x after p q, (small.call {} w).facts.toList = before ++ x :: after ∧
      PairKind.relation.pair? x = some (p, q) ∧
      (∃ u f g d e, small.Backed functionsOnly (small.callVisits {} w) before after u f g d e ∧
        f.id = p ∧ g.id = q) ∧
      ((small.call {} w).ledger.lookup? p).isSome = true ∧
      ((small.call {} w).ledger.lookup? q).isSome = true := by
  have ht : ∀ t ∈ small.sites, Tag.Regular t.tag := by decide +kernel
  obtain ⟨new, hnew, hclosed⟩ := call_closed ht {} (.below functionsOnly 0 0 none)
  obtain ⟨p, q, hmem⟩ := exists_relationFact_small
  obtain ⟨before, after, hsplit⟩ := List.append_of_mem hmem
  have hpair := PairKind.relation.pair?_relationFact p q
  exact ⟨before, _, after, p, q, hsplit, hpair,
    hclosed .relation before _ after p q (hnew.symm.trans hsplit) hpair⟩

end Corpus

end ElfFacts
