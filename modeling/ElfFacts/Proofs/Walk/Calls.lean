import ElfFacts.Proofs.Walk.Once
import ElfFacts.Proofs.Walk.Trace

/-!
# The visits of one call

A call walks a whole binary or what is below one of its entries; either way it is a row of visits,
whatever the ledger is that it starts from. Nothing on the stack is ever dropped: what a visit hands
on is visited later in the same call, as `Complete` says.
-/
namespace ElfFacts

def WalkCall.options : WalkCall → WalkOptions
  | .whole o => o
  | .below o _ _ _ => o

theorem WalkContext.mem_visits {c : WalkContext} {g : WalkFrame} {frames : List WalkFrame}
    (hg : g ∈ frames) (s : WalkState) : g ∈ c.visits frames s := by
  fun_induction c.visits frames s with
  | case1 s => cases hg
  | case2 f rest s ih =>
    rcases List.mem_cons.1 hg with rfl | hg
    · exact List.mem_cons_self ..
    · exact List.mem_cons_of_mem f (ih (List.mem_append_right _ hg))

namespace Corpus

variable {b : Corpus} {o : WalkOptions}

def visitsBelow (b : Corpus) (o : WalkOptions) (unitIndex root : Nat) (parent : Option Identity)
    (s : WalkState) : List Encounter :=
  match b.units[unitIndex]? with
  | none => []
  | some u =>
    match u.get? root with
    | none => []
    | some e =>
      let c := b.context o (u, unitIndex)
      (c.visits [⟨root, c.idOf e parent, 0⟩] s).map (Prod.mk (u, unitIndex))

theorem walk_eq_foldl_encounter (unitIndex root : Nat) (parent : Option Identity) (s : WalkState) :
    b.walk o unitIndex root parent s =
      (b.visitsBelow o unitIndex root parent s).foldl (b.encounter o) s := by
  unfold walk visitsBelow
  cases b.units[unitIndex]? with
  | none => rfl
  | some u =>
    cases he : u.get? root with
    | none => simp only [he, List.foldl_nil]
    | some e =>
      simp only [he]
      exact run_eq_foldl_encounter (u, unitIndex) _ s

def callVisits (b : Corpus) (s : WalkState) : WalkCall → List Encounter
  | .whole o => b.visits o s
  | .below o unitIndex root parent => b.visitsBelow o unitIndex root parent s

theorem call_eq_foldl_encounter (s : WalkState) (w : WalkCall) :
    b.call s w = (b.callVisits s w).foldl (b.encounter w.options) s := by
  cases w with
  | whole o => exact walkAll_eq_foldl_encounter s
  | below o unitIndex root parent => exact walk_eq_foldl_encounter unitIndex root parent s

theorem facts_call (s : WalkState) (w : WalkCall) :
    (b.call s w).facts.toList =
      s.facts.toList ++ (b.reports w.options (b.callVisits s w) s).map Prod.snd := by
  rw [call_eq_foldl_encounter, facts_foldl_encounter]

theorem map_snd_reportsAt {x : Encounter} {e : DebugEntry}
    (he : x.1.1.get? x.2.index = some e) (s : WalkState) :
    ((b.context o x.1).reportsAt x.2 s).map Prod.snd =
      (b.context o x.1).visitFacts x.2 e s.ledger := by
  have he' : (b.context o x.1).unit.get? x.2.index = some e := he
  simp only [WalkContext.reportsAt, he', WalkContext.map_snd_visitReports]

theorem mem_facts_call_of_first {s : WalkState} {w : WalkCall} {x : Encounter}
    {rest : List Encounter} (hvisits : b.callVisits s w = x :: rest) {e : DebugEntry}
    (he : x.1.1.get? x.2.index = some e) {y : Fact}
    (hy : y ∈ (b.context w.options x.1).visitFacts x.2 e s.ledger) :
    y ∈ (b.call s w).facts.toList := by
  rw [facts_call, hvisits, reports, List.map_append, map_snd_reportsAt he]
  exact List.mem_append_right _ (List.mem_append_left _ hy)

theorem unit_of_mem_callVisits {s : WalkState} {w : WalkCall} {x : Encounter}
    (hx : x ∈ b.callVisits s w) : b.units[x.1.2]? = some x.1.1 := by
  cases w with
  | whole o => exact mem_zipIdx (mem_of_mem_unitVisits hx)
  | below o unitIndex root parent =>
    simp only [callVisits, visitsBelow] at hx
    split at hx
    · cases hx
    · next u hu =>
      split at hx
      · cases hx
      · obtain ⟨f, -, rfl⟩ := List.mem_map.1 hx
        exact hu

/-- Whatever one of the visits hands on is among the visits behind it. -/
def Complete (b : Corpus) (o : WalkOptions) : List Encounter → WalkState → Prop
  | [], _ => True
  | x :: rest, s =>
    (∀ g ∈ ((b.context o x.1).visit x.2 s).2, (x.1, g) ∈ rest) ∧
      Complete b o rest (b.encounter o s x)

theorem Complete.append {xs ys : List Encounter} {s : WalkState} (hxs : b.Complete o xs s)
    (hys : b.Complete o ys (xs.foldl (b.encounter o) s)) : b.Complete o (xs ++ ys) s := by
  induction xs generalizing s with
  | nil => exact hys
  | cons x xs ih =>
    exact ⟨fun g hg => List.mem_append_left ys (hxs.1 g hg), ih hxs.2 hys⟩

theorem complete_visits (x : DebugUnit × Nat) (frames : List WalkFrame) (s : WalkState) :
    b.Complete o (((b.context o x).visits frames s).map (Prod.mk x)) s := by
  fun_induction (b.context o x).visits frames s with
  | case1 s => exact trivial
  | case2 f rest s ih =>
    refine ⟨fun g hg => List.mem_map_of_mem ?_, ih⟩
    exact WalkContext.mem_visits (List.mem_append_left rest hg) _

theorem complete_unitVisits (units : List (DebugUnit × Nat)) (s : WalkState) :
    b.Complete o (b.unitVisits o units s) s := by
  induction units generalizing s with
  | nil => exact trivial
  | cons x units ih =>
    refine (complete_visits x _ s).append ?_
    rw [← run_eq_foldl_encounter]
    exact ih _

theorem complete_callVisits (s : WalkState) (w : WalkCall) :
    b.Complete w.options (b.callVisits s w) s := by
  cases w with
  | whole o => exact complete_unitVisits _ s
  | below o unitIndex root parent =>
    simp only [callVisits, visitsBelow]
    split
    · exact trivial
    · split
      · exact trivial
      · exact complete_visits _ _ s

end Corpus

end ElfFacts
