import ElfFacts.Proofs.Walk.Declared
import ElfFacts.Proofs.Walk.Parameters
import Mathlib.Data.List.Flatten

/-!
# A deeper limit

A walk with a deeper depth limit visits what the walk with the shallow one visits, in the same order,
and other entries in between. What it reports about an entry and its children is never less. What it
reports for the compile units may come at another place, but it can be read off the ledger, which
knows at least the same languages.
-/
namespace ElfFacts

def WalkOptions.downTo (o : WalkOptions) (n : Nat) : WalkOptions := { o with maxDepth := n }

namespace DebugUnit

/-- Descending further meets the same entries in the same order, and more in between. -/
theorem below_sublist (u : DebugUnit) {m n : Nat} (h : m ≤ n) (i : Nat) :
    (u.below m i).Sublist (u.below n i) := by
  induction m generalizing n i with
  | zero =>
    cases n with
    | zero => exact List.Sublist.refl _
    | succ n => exact (List.nil_sublist _).cons_cons i
  | succ m ih =>
    cases n with
    | zero => omega
    | succ n =>
      have hbelow := List.Sublist.flatMap_right (u.childrenAt i)
        fun j _ => ih (Nat.le_of_succ_le_succ h) j
      exact hbelow.cons_cons i

end DebugUnit

namespace WalkContext

def downTo (c : WalkContext) (n : Nat) : WalkContext := { c with options := c.options.downTo n }

variable {c : WalkContext} {n : Nat}

theorem reach_downTo (h : c.options.maxDepth ≤ n) (i : Nat) :
    (c.reach i).Sublist ((c.downTo n).reach i) :=
  c.unit.below_sublist (Nat.sub_le_sub_right h _) i

theorem relationFacts_downTo (f : WalkFrame) (tag : String) (m : Nat) (frames : List WalkFrame) :
    (c.downTo n).relationFacts f tag m frames = c.relationFacts f tag m frames := by
  induction frames generalizing m with
  | nil => rfl
  | cons g frames ih =>
    rw [relationFacts, relationFacts, ih]
    rfl

def entryFacts (c : WalkContext) (f : WalkFrame) (e : DebugEntry) (frames : List WalkFrame) :
    List Fact :=
  let tag := Tag.normalize e.tag
  (if c.options.allows tag then [existenceFact c.path tag f.id] else []) ++
    c.relationFacts f tag 0 frames ++
    (if c.options.allows tag then c.attributeFacts f e tag (c.typePart f e tag).1 else [])

theorem visitFacts_eq (f : WalkFrame) (e : DebugEntry) (l : Ledger) :
    c.visitFacts f e l = c.entryFacts f e (l.newFrames f.id (c.offspring f)) ++
      if Tag.kind (Tag.normalize e.tag) = .compileUnit then c.unitFacts e l else [] := rfl

theorem entryFacts_downTo (f : WalkFrame) (e : DebugEntry) (frames : List WalkFrame) :
    (c.downTo n).entryFacts f e frames = c.entryFacts f e frames := by
  rw [entryFacts, relationFacts_downTo]
  rfl

theorem entryFacts_nil_sublist (f : WalkFrame) (e : DebugEntry) (frames : List WalkFrame) :
    (c.entryFacts f e []).Sublist (c.entryFacts f e frames) :=
  ((List.Sublist.refl _).append (List.nil_sublist _)).append (List.Sublist.refl _)

theorem reachable_downTo {f : WalkFrame} {e : DebugEntry} (h : c.options.maxDepth ≤ n)
    (hleaf : c.options.maxDepth ≤ f.depth → e.children = #[]) :
    (c.downTo n).reachable f e = c.reachable f e := by
  unfold reachable
  by_cases hf : f.depth < c.options.maxDepth
  · rw [if_pos hf]
    exact if_pos (Nat.lt_of_lt_of_le hf h)
  · rw [hleaf (Nat.le_of_not_lt hf)]
    exact (ite_self _).trans (ite_self _).symm

/-- Where the entry has no children below the limit, a deeper one makes no difference. -/
theorem visit_downTo {f : WalkFrame} (h : c.options.maxDepth ≤ n)
    (hleaf : ∀ e, c.unit.get? f.index = some e → c.options.maxDepth ≤ f.depth → e.children = #[])
    (s : WalkState) : (c.downTo n).visit f s = c.visit f s := by
  cases he : c.unit.get? f.index with
  | none =>
    have he' : (c.downTo n).unit.get? f.index = none := he
    rw [c.visit_of_none s he, (c.downTo n).visit_of_none s he']
  | some e =>
    have he' : (c.downTo n).unit.get? f.index = some e := he
    have hoffspring : (c.downTo n).offspring f = c.offspring f := by
      rw [offspring, offspring, he, he']
      dsimp only
      rw [reachable_downTo h (hleaf e he)]
      rfl
    have hfacts : (c.downTo n).visitFacts f e s.ledger = c.visitFacts f e s.ledger := by
      rw [visitFacts_eq, visitFacts_eq, entryFacts_downTo, hoffspring]
      rfl
    have hledger : (c.downTo n).visitLedger f e s.ledger = c.visitLedger f e s.ledger := by
      rw [visitLedger, visitLedger, hoffspring]
      rfl
    have hcut : (if f.depth < n then 0 else e.children.size) =
        if f.depth < c.options.maxDepth then 0 else e.children.size := by
      by_cases hf : f.depth < c.options.maxDepth
      · rw [if_pos hf, if_pos (Nat.lt_of_lt_of_le hf h)]
      · rw [hleaf e he (Nat.le_of_not_lt hf)]
        simp
    have hstats : (c.downTo n).visitStats f e s.ledger s.stats =
        c.visitStats f e s.ledger s.stats := by
      rw [visitStats, visitStats, hoffspring]
      simp only [← hcut]
      rfl
    rw [c.visit_eq s he, (c.downTo n).visit_eq s he', hfacts, hledger, hstats, hoffspring]

namespace Stop

def entry (x : Stop) : DebugEntry := x.1.unit.entryAt x.2

def report (x : Stop) : List Fact :=
  x.1.entryFacts (x.1.frameAt x.2) x.entry ((x.1.kidsAt x.2).map x.1.frameAt)

def downTo (n : Nat) (x : Stop) : Stop := (x.1.downTo n, x.2)

theorem report_downTo {x : Stop} (h : x.1.options.maxDepth ≤ n) :
    x.report.Sublist (x.downTo n).report := by
  have hreport : (x.downTo n).report = x.1.entryFacts (x.1.frameAt x.2) x.entry
      (((x.1.downTo n).kidsAt x.2).map x.1.frameAt) := entryFacts_downTo ..
  rw [hreport, report]
  by_cases hdepth : x.1.unit.depth x.2 < x.1.options.maxDepth
  · have hkids : (x.1.downTo n).kidsAt x.2 = x.1.kidsAt x.2 :=
      (if_pos (Nat.lt_of_lt_of_le hdepth h)).trans (if_pos hdepth).symm
    rw [hkids]
  · have hkids : x.1.kidsAt x.2 = [] := if_neg hdepth
    rw [hkids]
    exact entryFacts_nil_sublist ..

variable {o : WalkOptions} {path : String} {x : Stop} {xs : List Stop} {s : WalkState}

/-- The facts of a state are those given and, for the compile units, those that the ledger tells. -/
def Accounts (o : WalkOptions) (path : String) (reports : List Fact) (s : WalkState) : Prop :=
  s.facts.toList.Perm (reports ++ s.ledger.declarations path o.generatorVersion)

theorem visit_of_lt (hlt : x.2 < x.1.unit.entries.size) :
    visit s x =
      { ledger := x.1.visitLedger (x.1.frameAt x.2) x.entry s.ledger
        stats := x.1.visitStats (x.1.frameAt x.2) x.entry s.ledger s.stats
        facts := s.facts ++ (x.1.visitFacts (x.1.frameAt x.2) x.entry s.ledger).toArray } := by
  have he : x.1.unit.get? (x.1.frameAt x.2).index = some x.entry := DebugUnit.get?_of_lt hlt
  rw [visit, x.1.visit_eq s he]

theorem newFrames_of_unpaired (hx : Placed o path x)
    (hpair : ∀ q, s.ledger.hasChild x.id q = false) :
    s.ledger.newFrames x.id (x.1.offspring (x.1.frameAt x.2)) =
      (x.1.kidsAt x.2).map x.1.frameAt := by
  rw [← offspring_frameAt hx.built hx.descending]
  exact s.ledger.newFrames_eq_self _ _ (nodup_offspring hx.built hx.descending hx.distinct x.2)
    fun g _ => hpair g.id

theorem Accounts.visit {reports : List Fact} (h : Accounts o path reports s) (hx : Placed o path x)
    (hpair : ∀ q, s.ledger.hasChild x.id q = false) :
    Accounts o path (reports ++ x.report) (Stop.visit s x) := by
  have hdeclared := x.1.declarations_visitLedger (x.1.frameAt x.2) x.entry s.ledger
  have hnew := newFrames_of_unpaired hx hpair
  rw [hx.path, hx.options] at hdeclared
  have hfacts : x.1.visitFacts (x.1.frameAt x.2) x.entry s.ledger = x.report ++
      if Tag.kind (Tag.normalize x.entry.tag) = .compileUnit then x.1.unitFacts x.entry s.ledger
      else [] := by
    rw [visitFacts_eq, report, ← hnew]
    rfl
  rw [visit_of_lt hx.lt, Accounts]
  simp only [Array.toList_append, hfacts]
  generalize (if Tag.kind (Tag.normalize x.entry.tag) = .compileUnit then
    x.1.unitFacts x.entry s.ledger else []) = gained at hdeclared ⊢
  calc s.facts.toList ++ (x.report ++ gained)
    _ |>.Perm (reports ++ s.ledger.declarations path o.generatorVersion ++ (x.report ++ gained)) :=
      h.append_right _
    _ |>.Perm (reports ++ x.report ++ (s.ledger.declarations path o.generatorVersion ++ gained)) := by
      simp only [List.append_assoc]
      exact (List.perm_append_comm_assoc _ _ _).append_left _
    _ |>.Perm _ := hdeclared.symm.append_left _

theorem Accounts.foldl_visit {reports : List Fact} (h : Accounts o path reports s)
    (hxs : ∀ x ∈ xs, Placed o path x) (hunmet : Unmet s xs) :
    Accounts o path (reports ++ xs.flatMap report) (xs.foldl Stop.visit s) := by
  induction xs generalizing s reports with
  | nil => simpa using h
  | cons x xs ih =>
    have hself : x ∈ x :: xs := List.mem_cons_self ..
    have hvisit := h.visit (hxs x hself) (hunmet.unpaired x hself)
    rw [List.flatMap_cons, ← List.append_assoc]
    exact ih hvisit (fun y hy => hxs y (List.mem_cons_of_mem x hy)) hunmet.visit

theorem mem_languages_foldl_visit (hxs : ∀ x ∈ xs, Placed o path x) {language : String} :
    language ∈ (xs.foldl visit s).ledger.languages ↔
      language ∈ s.ledger.languages ∨ ∃ x ∈ xs, Declares x.entry language := by
  induction xs generalizing s with
  | nil => simp
  | cons x xs ih =>
    rw [List.foldl_cons, ih fun y hy => hxs y (List.mem_cons_of_mem x hy),
      visit_of_lt (hxs x (List.mem_cons_self ..)).lt, mem_languages_visitLedger,
      List.exists_mem_cons_iff, or_assoc]

theorem sawCompileUnit_foldl_visit (hxs : ∀ x ∈ xs, Placed o path x) :
    (xs.foldl visit s).ledger.sawCompileUnit = true ↔ s.ledger.sawCompileUnit = true ∨
      ∃ x ∈ xs, Tag.kind (Tag.normalize x.entry.tag) = .compileUnit := by
  induction xs generalizing s with
  | nil => simp
  | cons x xs ih =>
    rw [List.foldl_cons, ih fun y hy => hxs y (List.mem_cons_of_mem x hy),
      visit_of_lt (hxs x (List.mem_cons_self ..)).lt, sawCompileUnit_visitLedger, Bool.or_eq_true,
      decide_eq_true_eq, List.exists_mem_cons_iff, or_assoc]

theorem nodup_languages_foldl_visit (hxs : ∀ x ∈ xs, Placed o path x)
    (h : s.ledger.languages.Nodup) : (xs.foldl visit s).ledger.languages.Nodup := by
  refine List.foldlRecOn (motive := fun s : WalkState => s.ledger.languages.Nodup) _ _ h
    fun s hs x hx => ?_
  rw [visit_of_lt (hxs x hx).lt]
  exact x.1.nodup_languages_visitLedger (x.1.frameAt x.2) x.entry s.ledger hs

end Stop

end WalkContext

namespace Corpus

open WalkContext (Stop)

variable {b : Corpus} {o : WalkOptions} {n : Nat}

theorem stops_downTo (h : o.maxDepth ≤ n) :
    ((b.stops o).map (Stop.downTo n)).Sublist (b.stops (o.downTo n)) := by
  rw [stops, List.map_flatMap]
  refine List.Sublist.flatMap_right _ fun x _ => ?_
  have hreach := List.Sublist.flatMap_right (b.context o x).unit.roots
    fun i _ => WalkContext.reach_downTo (c := b.context o x) h i
  rw [unitStops, List.map_map]
  exact hreach.map _

/-- The facts of a walk are the reports about the entries down to the limit and what the ledger tells
of the compile units among them. -/
theorem Forest.accounts_walkAll (hb : b.Forest)
    (hids : (b.sites.map (Site.identity b.pathText)).Nodup) :
    Stop.Accounts o b.pathText ((b.stops o).flatMap Stop.report) (b.walkAll o {}) := by
  have hstart : Stop.Accounts o b.pathText [] {} := List.Perm.nil
  rw [hb.walkAll_eq_foldl_visit hids]
  exact hstart.foldl_visit (hb.placed_stops hids) (hb.unmet_stops hids)

theorem Forest.reports_downTo (hb : b.Forest)
    (hids : (b.sites.map (Site.identity b.pathText)).Nodup) (h : o.maxDepth ≤ n) :
    ((b.stops o).flatMap Stop.report).Sublist ((b.stops (o.downTo n)).flatMap Stop.report) := by
  have hreport : ∀ x ∈ b.stops o, x.report.Sublist (x.downTo n).report := by
    intro x hx
    have hx := hb.placed_stops hids x hx
    exact Stop.report_downTo (hx.options.symm ▸ h)
  refine (List.Sublist.flatMap_right _ hreport).trans ?_
  rw [← List.flatMap_map]
  exact (stops_downTo h).flatMap _

theorem Forest.declarations_downTo (hb : b.Forest)
    (hids : (b.sites.map (Site.identity b.pathText)).Nodup) (h : o.maxDepth ≤ n) :
    ((b.walkAll o {}).ledger.declarations b.pathText o.generatorVersion).Subperm
      ((b.walkAll (o.downTo n) {}).ledger.declarations b.pathText o.generatorVersion) := by
  have hshallow := hb.placed_stops (o := o) hids
  have hdeep := hb.placed_stops (o := o.downTo n) hids
  have hstop : ∀ x ∈ b.stops o, x.downTo n ∈ b.stops (o.downTo n) := fun x hx =>
    (stops_downTo h).subset (List.mem_map_of_mem hx)
  rw [hb.walkAll_eq_foldl_visit hids, hb.walkAll_eq_foldl_visit hids]
  apply Ledger.declarations_subperm
  · exact Stop.nodup_languages_foldl_visit hshallow List.nodup_nil
  · intro language hlanguage
    rw [Stop.mem_languages_foldl_visit hshallow] at hlanguage
    rw [Stop.mem_languages_foldl_visit hdeep]
    exact hlanguage.imp_right fun ⟨x, hx, hdeclares⟩ => ⟨x.downTo n, hstop x hx, hdeclares⟩
  · rw [Stop.sawCompileUnit_foldl_visit hshallow, Stop.sawCompileUnit_foldl_visit hdeep]
    exact Or.imp_right fun ⟨x, hx, hunit⟩ => ⟨x.downTo n, hstop x hx, hunit⟩

theorem Forest.children_eq_empty (hb : b.Forest) (hdepth : ∀ s ∈ b.sites, s.depth ≤ n)
    {u : DebugUnit} (hu : u ∈ b.units) {i : Nat} {e : DebugEntry} (he : u.get? i = some e)
    (hi : n ≤ u.depth i) : e.children = #[] := by
  rw [← Array.toList_eq_nil_iff, List.eq_nil_iff_forall_not_mem]
  intro j hj
  have hkid : j ∈ u.childrenAt i := by simpa [DebugUnit.childrenAt, he] using hj
  rw [(hb u hu).1.childrenAt_eq, List.mem_filter, List.mem_range, decide_eq_true_eq] at hkid
  have hlow : u.depth j ≤ n := hdepth ⟨u, j⟩ (mem_sites.2 ⟨hu, hkid.1⟩)
  rw [DebugUnit.depth_of_parent (hb u hu).2 hkid.2] at hlow
  omega

theorem unit_of_mem_stops {x : Stop} (hx : x ∈ b.stops o) : x.1.unit ∈ b.units := by
  obtain ⟨y, hy, hx⟩ := List.mem_flatMap.1 hx
  obtain ⟨i, -, rfl⟩ := List.mem_map.1 hx
  exact Array.mem_of_getElem? (mem_zipIdx hy)

theorem Forest.walkAll_downTo_of_depth (hb : b.Forest)
    (hids : (b.sites.map (Site.identity b.pathText)).Nodup) (h : o.maxDepth ≤ n)
    (hdepth : ∀ s ∈ b.sites, s.depth ≤ o.maxDepth) :
    b.walkAll (o.downTo n) {} = b.walkAll o {} := by
  -- Both walks stop at every entry, so the stops of the one are not just some of the other's.
  have hall (o' : WalkOptions) (h' : o.maxDepth ≤ o'.maxDepth) :
      (b.stops o').length = b.sites.length := by
    have hfilter : (b.sites.filter fun s => s.depth ≤ o'.maxDepth) = b.sites :=
      List.filter_eq_self.2 fun s hs => decide_eq_true (Nat.le_trans (hdepth s hs) h')
    have hperm := hb.stops_perm (o := o')
    rw [hfilter] at hperm
    rw [← hperm.length_eq, List.length_map]
  have hstops : (b.stops o).map (Stop.downTo n) = b.stops (o.downTo n) := by
    apply (stops_downTo h).eq_of_length
    rw [List.length_map, hall o (Nat.le_refl _), hall (o.downTo n) h]
  rw [hb.walkAll_eq_foldl_visit hids, hb.walkAll_eq_foldl_visit hids, ← hstops, List.foldl_map]
  apply List.foldl_ext
  intro s x hx
  have hoptions := (hb.placed_stops hids x hx).options
  refine congrArg Prod.fst (WalkContext.visit_downTo (hoptions.symm ▸ h) ?_ s)
  rw [hoptions]
  exact fun e he hlow => hb.children_eq_empty hdepth (unit_of_mem_stops hx) he hlow

theorem Forest.truncated_walkAll_of_depth (hb : b.Forest)
    (hids : (b.sites.map (Site.identity b.pathText)).Nodup)
    (hdepth : ∀ s ∈ b.sites, s.depth ≤ o.maxDepth) : (b.walkAll o {}).stats.truncated = 0 := by
  rw [hb.walkAll_eq_foldl_visit hids]
  refine List.foldlRecOn (motive := fun s : WalkState => s.stats.truncated = 0) _ _ rfl
    fun s hs x hx => ?_
  have hplaced := hb.placed_stops hids x hx
  rw [Stop.visit_of_lt hplaced.lt]
  simp only [WalkContext.visitStats, hs, hplaced.options, Nat.zero_add]
  split
  · rfl
  · next hlow =>
    have hget := DebugUnit.get?_of_lt hplaced.lt
    exact congrArg Array.size
      (hb.children_eq_empty hdepth (unit_of_mem_stops hx) hget (Nat.le_of_not_lt hlow))

/-- A walk with a deeper limit reports, as a multiset, all that the walk with the shallow limit
reports. Where no entry lies below the shallow limit the two end in the same state, with the same
facts in the same order, and nothing is left out. -/
theorem walkAll_downTo (b : Corpus) (o : WalkOptions) (hb : b.Forest)
    (hids : (b.sites.map (Site.identity b.pathText)).Nodup) {m n : Nat} (h : m ≤ n) :
    let shallow := b.walkAll (o.downTo m) {}
    let deep := b.walkAll (o.downTo n) {}
    shallow.facts.toList.Subperm deep.facts.toList ∧
      ((∀ s ∈ b.sites, s.depth ≤ m) → deep = shallow ∧ shallow.stats.truncated = 0) := by
  have hlimit : (o.downTo m).maxDepth ≤ n := h
  have hshallow := hb.accounts_walkAll (o := o.downTo m) hids
  have hdeep := hb.accounts_walkAll (o := o.downTo n) hids
  refine ⟨?_, fun hdepth => ⟨?_, hb.truncated_walkAll_of_depth hids hdepth⟩⟩
  · rw [hshallow.subperm_right, hdeep.subperm_left]
    exact (hb.reports_downTo hids hlimit).subperm.append (hb.declarations_downTo hids hlimit)
  · exact hb.walkAll_downTo_of_depth hids hlimit hdepth

/-- The parameters of the function lie below the limit 0, and nothing lies below the limit 1. -/
theorem walkAll_downTo_blockInside :
    (blockInside.walkAll (nothingListed.downTo 0) {}).facts.toList.Subperm
        (blockInside.walkAll (nothingListed.downTo 1) {}).facts.toList ∧
      blockInside.walkAll (nothingListed.downTo 5) {} =
        blockInside.walkAll (nothingListed.downTo 1) {} ∧
      (blockInside.walkAll (nothingListed.downTo 1) {}).stats.truncated = 0 := by
  have hdepth : ∀ s ∈ blockInside.sites, s.depth ≤ 1 := by decide +kernel
  have hfirst := walkAll_downTo blockInside nothingListed forest_blockInside
    nodup_identity_blockInside (Nat.zero_le 1)
  have hsecond := walkAll_downTo blockInside nothingListed forest_blockInside
    nodup_identity_blockInside (by decide : 1 ≤ 5)
  exact ⟨hfirst.1, hsecond.2 hdepth⟩

end Corpus

end ElfFacts
