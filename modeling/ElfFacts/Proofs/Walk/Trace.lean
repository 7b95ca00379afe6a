import ElfFacts.Proofs.Walk.Exact
import ElfFacts.Proofs.Walk.Induction

/-!
# The visits of a walk and what they report

The walk of a binary is a row of visits, whatever the ledger is that it starts from. Every fact that
it reports comes from one of them, and from one of the places in a visit where facts are reported;
`Source` names these places.
-/
namespace ElfFacts

/-- What a visit reports facts for. -/
inductive Source where
  | entry
  | number
  | relation
  | attribute
  | version
  | language
  deriving DecidableEq, Repr

namespace Source

/-- What is reported about a child is its number or the relation to it. -/
def ofChild (x : Fact) : Source := if x.predicate = "has_child" then .relation else .number

def ofUnit (x : Fact) : Source := if x.predicate = "language" then .language else .version

/-- Sources that the list of tags has no part in, with the predicate and the number of arguments of
their facts. -/
def signature? : Source → Option (String × Nat)
  | .number => some ("dw_tag_formal_parameter_order", 4)
  | .version => some ("generator_version", 2)
  | .language => some ("language", 2)
  | _ => none

end Source

def Fact.hasSignature (sig : String × Nat) (x : Fact) : Bool :=
  x.predicate == sig.1 && x.arguments.length == sig.2

namespace WalkContext

variable (c : WalkContext)

def visitReports (f : WalkFrame) (e : DebugEntry) (l : Ledger) : List (Source × Fact) :=
  let tag := Tag.normalize e.tag
  (if c.options.allows tag then [(Source.entry, existenceFact c.path tag f.id)] else []) ++
    (c.relationFacts f tag 0 (l.newFrames f.id (c.offspring f))).map
      (fun x => (Source.ofChild x, x)) ++
    (if c.options.allows tag then
      (c.attributeFacts f e tag (c.typePart f e tag).1).map (Prod.mk .attribute) else []) ++
    (if Tag.kind tag = .compileUnit then (c.unitFacts e l).map fun x => (Source.ofUnit x, x) else [])

theorem map_snd_visitReports (f : WalkFrame) (e : DebugEntry) (l : Ledger) :
    (c.visitReports f e l).map Prod.snd = c.visitFacts f e l := by
  have hid (g : Fact → Source) (facts : List Fact) :
      (facts.map fun x => (g x, x)).map Prod.snd = facts := by
    rw [List.map_map]
    exact List.map_id _
  simp only [visitReports, visitFacts, List.map_append, hid, apply_ite (List.map Prod.snd),
    List.map_cons, List.map_nil]

theorem mem_relationFacts {f : WalkFrame} {tag : String} {n : Nat} {frames : List WalkFrame}
    {x : Fact} (hx : x ∈ c.relationFacts f tag n frames) :
    (∃ p q, x = relationFact p q) ∨ ∃ p q m, x = parameterFact c.path p q m := by
  induction frames generalizing n with
  | nil => cases hx
  | cons g frames ih =>
    rw [relationFacts, childFacts, List.mem_append, List.mem_append] at hx
    rcases hx with (hx | hx) | hx
    · split at hx
      · exact .inr ⟨_, _, _, List.mem_singleton.1 hx⟩
      · cases hx
    · split at hx
      · exact .inl ⟨_, _, List.mem_singleton.1 hx⟩
      · cases hx
    · exact ih hx

theorem mem_unitFacts {e : DebugEntry} {l : Ledger} {x : Fact} (hx : x ∈ c.unitFacts e l) :
    x = ⟨"generator_version", [.text c.path, .text c.options.generatorVersion]⟩ ∨
      ∃ language, x = ⟨"language", [.text c.path, .text language]⟩ := by
  rcases List.mem_append.1 hx with hx | hx
  · split at hx
    · cases hx
    · exact .inl (List.mem_singleton.1 hx)
  · obtain ⟨language, -, rfl⟩ := List.mem_map.1 hx
    exact .inr ⟨language, rfl⟩

/-- By its predicate and the number of its arguments a fact shows what it is reported for, unless the
entry has that predicate for a tag. -/
theorem hasSignature_of_mem_visitReports {f : WalkFrame} {e : DebugEntry} {l : Ledger} {k : Source}
    {sig : String × Nat} (hk : k.signature? = some sig) (ht : Tag.normalize e.tag ≠ sig.1) :
    ∀ x ∈ c.visitReports f e l, x.2.hasSignature sig = decide (x.1 = k) := by
  intro x hx
  simp only [visitReports, List.mem_append] at hx
  rcases hx with ((hx | hx) | hx) | hx
  · split at hx
    · obtain rfl := List.mem_singleton.1 hx
      have hother : (existenceFact c.path (Tag.normalize e.tag) f.id).hasSignature sig = false := by
        simp [Fact.hasSignature, existenceFact, ht]
      rw [hother]
      cases k <;> cases hk <;> rfl
    · cases hx
  · obtain ⟨y, hy, rfl⟩ := List.mem_map.1 hx
    rcases c.mem_relationFacts hy with ⟨p, q, rfl⟩ | ⟨p, q, n, rfl⟩ <;> cases k <;> cases hk <;> rfl
  · split at hx
    · obtain ⟨y, hy, rfl⟩ := List.mem_map.1 hx
      have harity := (c.isAttributeOf_attributeFacts f e _ y hy).2
      have hother : y.hasSignature sig = false := by
        rw [Fact.hasSignature, harity]
        cases k <;> cases hk <;> exact Bool.and_false _
      rw [hother]
      cases k <;> cases hk <;> rfl
    · cases hx
  · split at hx
    · obtain ⟨y, hy, rfl⟩ := List.mem_map.1 hx
      rcases c.mem_unitFacts hy with rfl | ⟨language, rfl⟩ <;> cases k <;> cases hk <;> rfl
    · cases hx

def reportsAt (f : WalkFrame) (s : WalkState) : List (Source × Fact) :=
  match c.unit.get? f.index with
  | none => []
  | some e => c.visitReports f e s.ledger

theorem facts_visit (f : WalkFrame) (s : WalkState) :
    (c.visit f s).1.facts.toList = s.facts.toList ++ (c.reportsAt f s).map Prod.snd := by
  unfold reportsAt
  cases he : c.unit.get? f.index with
  | none => rw [c.visit_of_none s he, List.map_nil, List.append_nil]
  | some e => rw [c.visit_eq s he, map_snd_visitReports, Array.toList_append]

end WalkContext

namespace Corpus

variable (b : Corpus) (o : WalkOptions)

/-- A visit on the way of a walk: a unit with its index, and the frame of an entry in it. -/
abbrev Encounter := (DebugUnit × Nat) × WalkFrame

def encounter (s : WalkState) (x : Encounter) : WalkState := ((b.context o x.1).visit x.2 s).1

def unitVisits : List (DebugUnit × Nat) → WalkState → List Encounter
  | [], _ => []
  | x :: rest, s =>
    let frames := x.1.roots.map (b.context o x).frameAt
    ((b.context o x).visits frames s).map (Prod.mk x) ++
      unitVisits rest ((b.context o x).run frames s)

def visits (s : WalkState) : List Encounter := b.unitVisits o b.units.toList.zipIdx s

def reports : List Encounter → WalkState → List (Source × Fact)
  | [], _ => []
  | x :: rest, s => (b.context o x.1).reportsAt x.2 s ++ reports rest (b.encounter o s x)

def trace (s : WalkState) : List (Source × Fact) := b.reports o (b.visits o s) s

variable {b o}

theorem run_eq_foldl_encounter (x : DebugUnit × Nat) (frames : List WalkFrame) (s : WalkState) :
    (b.context o x).run frames s =
      (((b.context o x).visits frames s).map (Prod.mk x)).foldl (b.encounter o) s := by
  rw [WalkContext.run_eq_foldl_visits, List.foldl_map]
  rfl

theorem foldl_run_eq_foldl_encounter (units : List (DebugUnit × Nat)) (s : WalkState) :
    units.foldl (fun s x => (b.context o x).run (x.1.roots.map (b.context o x).frameAt) s) s =
      (b.unitVisits o units s).foldl (b.encounter o) s := by
  induction units generalizing s with
  | nil => rfl
  | cons x units ih =>
    rw [List.foldl_cons, unitVisits, List.foldl_append, ← run_eq_foldl_encounter]
    exact ih _

/-- A walk of the whole binary does its visits and nothing else. -/
theorem walkAll_eq_foldl_encounter (s : WalkState) :
    b.walkAll o s = (b.visits o s).foldl (b.encounter o) s := by
  rw [walkAll_eq_foldl, foldl_run_eq_foldl_encounter, visits]

theorem facts_foldl_encounter (xs : List Encounter) (s : WalkState) :
    (xs.foldl (b.encounter o) s).facts.toList =
      s.facts.toList ++ (b.reports o xs s).map Prod.snd := by
  induction xs generalizing s with
  | nil => simp [reports]
  | cons x xs ih =>
    rw [List.foldl_cons, ih, encounter, WalkContext.facts_visit, reports, List.map_append,
      List.append_assoc]
    rfl

theorem facts_walkAll (s : WalkState) :
    (b.walkAll o s).facts.toList = s.facts.toList ++ (b.trace o s).map Prod.snd := by
  rw [walkAll_eq_foldl_encounter, facts_foldl_encounter, trace]

theorem mem_of_mem_unitVisits {units : List (DebugUnit × Nat)} {s : WalkState} {x : Encounter}
    (hx : x ∈ b.unitVisits o units s) : x.1 ∈ units := by
  induction units generalizing s with
  | nil => cases hx
  | cons y units ih =>
    rw [unitVisits, List.mem_append] at hx
    rcases hx with hx | hx
    · obtain ⟨f, -, rfl⟩ := List.mem_map.1 hx
      exact List.mem_cons_self ..
    · exact List.mem_cons_of_mem y (ih hx)

theorem unit_of_mem_visits {s : WalkState} {x : Encounter} (hx : x ∈ b.visits o s) :
    x.1.1 ∈ b.units :=
  Array.mem_of_getElem? (mem_zipIdx (mem_of_mem_unitVisits hx))

theorem hasSignature_of_mem_reports {k : Source} {sig : String × Nat} (hk : k.signature? = some sig)
    (ht : ∀ t ∈ b.sites, t.tag ≠ sig.1) {xs : List Encounter} (hxs : ∀ x ∈ xs, x.1.1 ∈ b.units)
    (s : WalkState) : ∀ y ∈ b.reports o xs s, y.2.hasSignature sig = decide (y.1 = k) := by
  induction xs generalizing s with
  | nil => exact fun y hy => (List.not_mem_nil hy).elim
  | cons x xs ih =>
    intro y hy
    rw [reports, List.mem_append] at hy
    rcases hy with hy | hy
    · unfold WalkContext.reportsAt at hy
      split at hy
      · cases hy
      · next e he =>
        have htag := tag_of_sites (Q := (· ≠ sig.1)) ht (hxs x (List.mem_cons_self ..)) he
        exact WalkContext.hasSignature_of_mem_visitReports _ hk htag y hy
    · exact ih (fun z hz => hxs z (List.mem_cons_of_mem x hz)) _ y hy

/-- Where no entry has the predicate of a source for a tag, the facts of the source can be told by
their predicate and the number of their arguments. -/
theorem filter_hasSignature {k : Source} {sig : String × Nat} (hk : k.signature? = some sig)
    (ht : ∀ t ∈ b.sites, t.tag ≠ sig.1) (l : Ledger) :
    (b.walkAll o { ledger := l }).facts.toList.filter (Fact.hasSignature sig) =
      ((b.trace o { ledger := l }).filter fun x => x.1 = k).map Prod.snd := by
  rw [facts_walkAll, Array.toList_empty, List.nil_append, List.filter_map]
  congr 1
  exact List.filter_congr (hasSignature_of_mem_reports hk ht (fun _ hx => unit_of_mem_visits hx) _)

end Corpus

end ElfFacts
