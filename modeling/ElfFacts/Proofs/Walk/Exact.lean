import ElfFacts.Proofs.Walk.Facts
import ElfFacts.Proofs.Walk.Sites

/-!
# What a walk of a whole binary reports

`Totals` are the parts of a state to which every visited entry adds its share: the facts that say
that an entry is there, the relations, and the counts. On an empty ledger the walk of a binary adds
the share of every entry down to the depth limit exactly once.
-/
namespace ElfFacts

@[ext] structure Totals where
  existence : List Fact
  relations : List Fact
  entries : Nat
  duplicates : Nat
  truncated : Nat
  visited : Nat

def WalkState.totals (s : WalkState) : Totals where
  existence := s.facts.toList.filter Fact.isExistence
  relations := s.facts.toList.filter Fact.isRelation
  entries := s.stats.entries
  duplicates := s.stats.duplicateChildren
  truncated := s.stats.truncated
  visited := s.ledger.visited

namespace Site

def existence (o : WalkOptions) (path : String) (s : Site) : List Fact :=
  if o.allows s.tag then [WalkContext.existenceFact path s.tag (s.identity path)] else []

def related (o : WalkOptions) (p s : Site) : Bool := o.allows p.tag || o.allows s.tag

def relation (path : String) (p s : Site) : Fact :=
  WalkContext.relationFact (p.identity path) (s.identity path)

def kids (o : WalkOptions) (s : Site) : List Site := if s.depth < o.maxDepth then s.children else []

def relations (o : WalkOptions) (path : String) (s : Site) : List Fact :=
  ((s.kids o).filter (s.related o)).map (s.relation path)

def cut (o : WalkOptions) (s : Site) : List Site := if s.depth < o.maxDepth then [] else s.children

theorem mem_children_of_mem_kids {o : WalkOptions} {s t : Site} (h : t ∈ s.kids o) :
    t ∈ s.children := by
  unfold kids at h
  split at h
  · exact h
  · cases h

theorem flatMap_kids (o : WalkOptions) (sites : List Site) :
    (sites.filter fun s => s.depth ≤ o.maxDepth).flatMap (kids o) =
      (sites.filter fun s => s.depth < o.maxDepth).flatMap children := by
  induction sites with
  | nil => rfl
  | cons s sites ih =>
    by_cases hlt : s.depth < o.maxDepth
    · simp [kids, hlt, Nat.le_of_lt hlt, ih]
    · by_cases hle : s.depth ≤ o.maxDepth <;> simp [kids, hlt, hle, ih]

theorem flatMap_cut (o : WalkOptions) (sites : List Site) :
    (sites.filter fun s => s.depth ≤ o.maxDepth).flatMap (cut o) =
      (sites.filter fun s => s.depth = o.maxDepth).flatMap children := by
  induction sites with
  | nil => rfl
  | cons s sites ih =>
    rcases Nat.lt_trichotomy s.depth o.maxDepth with hlt | heq | hgt
    · simp [cut, hlt, Nat.le_of_lt hlt, Nat.ne_of_lt hlt, ih]
    · simp [cut, heq, ih]
    · simp [Nat.not_le_of_lt hgt, Nat.ne_of_gt hgt, ih]

end Site

def Totals.add (o : WalkOptions) (path : String) (t : Totals) (s : Site) : Totals where
  existence := t.existence ++ s.existence o path
  relations := t.relations ++ s.relations o path
  entries := t.entries + 1
  duplicates := t.duplicates
  truncated := t.truncated + (s.cut o).length
  visited := t.visited + 1

theorem Totals.foldl_add (o : WalkOptions) (path : String) (t : Totals) (sites : List Site) :
    sites.foldl (Totals.add o path) t =
      { existence := t.existence ++ sites.flatMap (Site.existence o path)
        relations := t.relations ++ sites.flatMap (Site.relations o path)
        entries := t.entries + sites.length
        duplicates := t.duplicates
        truncated := t.truncated + (sites.flatMap (Site.cut o)).length
        visited := t.visited + sites.length } := by
  induction sites generalizing t with
  | nil => simp
  | cons s sites ih =>
    rw [List.foldl_cons, ih]
    ext1 <;> simp [Totals.add] <;> omega

namespace WalkContext.Stop

def site (x : Stop) : Site := ⟨x.1.unit, x.2⟩

/-- A stop at an entry of a forest, with the given options and path. -/
structure Placed (o : WalkOptions) (path : String) (x : Stop) : Prop where
  options : x.1.options = o
  path : x.1.path = path
  built : x.1.unit.Built
  descending : x.1.unit.Descending
  distinct : x.1.Distinct
  lt : x.2 < x.1.unit.entries.size

/-- A stop at an entry of a forest whose tag starts as all tags do. -/
structure Sound (o : WalkOptions) (path : String) (x : Stop) : Prop extends Placed o path x where
  regular : Tag.Regular x.site.tag

variable {o : WalkOptions} {path : String}

theorem totals_visit {s : WalkState} {x : Stop} (hx : Sound o path x)
    (hpair : ∀ q, s.ledger.hasChild x.id q = false) (hreg : x.id ∉ s.ledger.registry) :
    (visit s x).totals = s.totals.add o path x.site := by
  obtain ⟨c, i⟩ := x
  obtain ⟨⟨hoptions, hpath, hu, hd, hc, hlt⟩, ht⟩ := hx
  have he : c.unit.get? (c.frameAt i).index = some (c.unit.entryAt i) := DebugUnit.get?_of_lt hlt
  have hget : c.unit.get? i = some (c.unit.entryAt i) := he
  have htag : Tag.normalize (c.unit.entryAt i).tag = (site (c, i)).tag := by
    simp only [site, Site.tag, hget, Option.map_some, Option.getD_some]
  have hall : s.ledger.newFrames (c.frameAt i).id (c.offspring (c.frameAt i)) =
      c.offspring (c.frameAt i) :=
    s.ledger.newFrames_eq_self _ _ (nodup_offspring hu hd hc i) fun g _ => hpair g.id
  have hnew : s.ledger.newFrames (c.frameAt i).id (c.offspring (c.frameAt i)) =
      (c.kidsAt i).map c.frameAt := hall.trans (offspring_frameAt hu hd i)
  have hkids : (site (c, i)).kids o = (c.kidsAt i).map (Site.mk c.unit) := by
    rw [Site.kids, kidsAt, ← hoptions, apply_ite (List.map (Site.mk c.unit)), List.map_nil]
    rfl
  have hregistry : (c.visitLedger (c.frameAt i) (c.unit.entryAt i) s.ledger).registry =
      s.ledger.registry.insert (id (c, i)) (c.unitIndex, i) := c.registry_visitLedger _ _ _
  subst hoptions hpath
  rw [← htag] at ht
  simp only [visit, c.visit_eq s he]
  ext1
  · simp only [WalkState.totals, Totals.add, Array.toList_append, List.filter_append,
      c.filter_isExistence_visitFacts _ _ _ ht, Site.existence, ← htag]
    rfl
  · simp only [WalkState.totals, Totals.add, Array.toList_append, List.filter_append,
      c.filter_isRelation_visitFacts _ _ _ ht, Site.relations, hnew, hkids, htag, List.filter_map,
      List.map_map]
    rfl
  · rfl
  · simp only [WalkState.totals, Totals.add, visitStats, hall, Nat.sub_self, Nat.add_zero]
  · have hsize : (c.unit.entryAt i).children.size = (site (c, i)).children.length := by
      simp [site, Site.children, DebugUnit.childrenAt, hget]
    have hcut : ((site (c, i)).cut c.options).length =
        if (c.frameAt i).depth < c.options.maxDepth then 0 else (c.unit.entryAt i).children.size := by
      rw [Site.cut, apply_ite List.length, List.length_nil, hsize]
      rfl
    simp only [WalkState.totals, Totals.add, visitStats, hcut]
  · simp only [WalkState.totals, Totals.add, Ledger.visited, hregistry, Std.HashMap.size_insert,
      if_neg hreg]

theorem totals_foldl_visit {xs : List Stop} (hx : ∀ x ∈ xs, Sound o path x) {s : WalkState}
    (h : Unmet s xs) :
    (xs.foldl visit s).totals = (xs.map site).foldl (Totals.add o path) s.totals := by
  induction xs generalizing s with
  | nil => rfl
  | cons x xs ih =>
    have hself : x ∈ x :: xs := List.mem_cons_self ..
    have hstep := totals_visit (hx x hself) (h.unpaired x hself) (h.unregistered x hself)
    rw [List.foldl_cons, List.map_cons, List.foldl_cons, ← hstep]
    exact ih (fun y hy => hx y (List.mem_cons_of_mem x hy)) h.visit

end WalkContext.Stop

namespace Corpus

open WalkContext (Stop)

variable {b : Corpus} {o : WalkOptions}

def context (b : Corpus) (o : WalkOptions) (x : DebugUnit × Nat) : WalkContext where
  options := o
  path := b.pathText
  unitIndex := x.2
  unit := x.1

def unitStops (c : WalkContext) : List Stop := (c.unit.roots.flatMap c.reach).map (Prod.mk c)

/-- The entries that a walk of the binary visits if it meets every entry once. -/
def stops (b : Corpus) (o : WalkOptions) : List Stop :=
  b.units.toList.zipIdx.flatMap fun x => unitStops (b.context o x)

theorem mem_zipIdx {x : DebugUnit × Nat} (hx : x ∈ b.units.toList.zipIdx) :
    b.units[x.2]? = some x.1 := by
  rw [← Array.getElem?_toList]
  exact List.mem_zipIdx_iff_getElem?.1 hx

theorem walkUnit_eq {x : DebugUnit × Nat} (hx : b.units[x.2]? = some x.1) (s : WalkState) :
    b.walkUnit o s x.2 = (b.context o x).run (x.1.roots.map (b.context o x).frameAt) s := by
  rw [walkUnit, hx, WalkContext.run_eq_foldl, List.foldl_map]
  apply List.foldl_ext
  intro t r hr
  obtain ⟨hlt, hroot⟩ : r < x.1.entries.size ∧ x.1.parent? r = none := by
    rw [DebugUnit.roots, List.mem_filter, List.mem_range, Option.isNone_iff_eq_none] at hr
    exact hr
  have hroot' : (b.context o x).unit.parent? r = none := hroot
  have hframe : (b.context o x).frameAt r =
      ⟨r, (b.context o x).idOf (x.1.entryAt r) none, 0⟩ := by
    rw [WalkContext.frameAt, DebugUnit.identityAt_of_root _ hroot', DebugUnit.depth,
      DebugUnit.ancestors_of_root hroot']
    rfl
  rw [hframe, walk, hx]
  simp only [DebugUnit.get?_of_lt hlt]
  rfl

theorem walkAll_eq_foldl (s : WalkState) :
    b.walkAll o s = b.units.toList.zipIdx.foldl (fun s x =>
      (b.context o x).run (x.1.roots.map (b.context o x).frameAt) s) s := by
  have hrange : List.range b.units.size = b.units.toList.zipIdx.map Prod.snd := by
    rw [List.zipIdx_map_snd, List.range_eq_range', Array.length_toList]
  rw [walkAll, hrange, List.foldl_map]
  apply List.foldl_ext
  intro t x hx
  exact walkUnit_eq (mem_zipIdx hx) t

/-- A walk that meets every entry once is a row of visits. -/
theorem foldl_run_eq (units : List (DebugUnit × Nat))
    (hunits : ∀ x ∈ units, x.1.Built ∧ x.1.Descending ∧ (b.context o x).Distinct) (s : WalkState)
    (h : Stop.Unmet s (units.flatMap fun x => unitStops (b.context o x))) :
    units.foldl (fun s x => (b.context o x).run (x.1.roots.map (b.context o x).frameAt) s) s =
      (units.flatMap fun x => unitStops (b.context o x)).foldl Stop.visit s := by
  induction units generalizing s with
  | nil => rfl
  | cons x units ih =>
    rw [List.flatMap_cons] at h
    obtain ⟨hu, hd, hc⟩ := hunits x (List.mem_cons_self ..)
    have hx : (b.context o x).run (x.1.roots.map (b.context o x).frameAt) s =
        (unitStops (b.context o x)).foldl Stop.visit s := by
      have hv := WalkContext.visits_of_unmet hu hd hc x.1.roots s h.left
      rw [WalkContext.run_eq_foldl_visits, hv, List.foldl_map, unitStops, List.foldl_map]
      rfl
    rw [List.foldl_cons, List.flatMap_cons, List.foldl_append, hx]
    exact ih (fun y hy => hunits y (List.mem_cons_of_mem x hy)) _ h.foldl_visit

/-- The stops of a walk are the entries down to the depth limit, each of them once. -/
theorem Forest.stops_perm (hb : b.Forest) :
    ((b.stops o).map Stop.site).Perm (b.sites.filter fun s => s.depth ≤ o.maxDepth) := by
  have hunits : b.units.toList = b.units.toList.zipIdx.map Prod.fst := by rw [List.zipIdx_map_fst]
  rw [stops, List.map_flatMap, sites, hunits, List.flatMap_map, List.filter_flatMap, ← hunits]
  apply List.Perm.flatMap_left
  intro x hx
  have hmem : x.1 ∈ b.units := Array.mem_of_getElem? (mem_zipIdx hx)
  have hreach : x.1.roots.flatMap (b.context o x).reach =
      x.1.roots.flatMap (x.1.below o.maxDepth) := by
    apply List.flatMap_congr
    intro r hr
    have hroot : x.1.parent? r = none := by
      rw [DebugUnit.roots, List.mem_filter, Option.isNone_iff_eq_none] at hr
      exact hr.2
    have hdepth : (b.context o x).unit.depth r = 0 :=
      (DebugUnit.depth_eq_zero_iff (hb _ hmem).2 r).2 hroot
    rw [WalkContext.reach, hdepth]
    rfl
  have hperm := (DebugUnit.flatMap_below_perm (hb _ hmem).1 (hb _ hmem).2 o.maxDepth).map
    (Site.mk x.1)
  rw [unitStops, List.map_map, DebugUnit.sites, List.filter_map]
  have hunit : (b.context o x).unit = x.1 := rfl
  rw [hunit, hreach]
  exact hperm

theorem Forest.kids_perm (hb : b.Forest) :
    ((b.sites.filter fun s => s.depth ≤ o.maxDepth).flatMap fun s =>
      (s.kids o).map (Prod.mk s)).Perm (b.edges.filter fun e => e.2.depth ≤ o.maxDepth) := by
  have hedge : ∀ s ∈ b.sites.filter fun s => s.depth ≤ o.maxDepth,
      (s.kids o).map (Prod.mk s) = (s.kids o).filterMap Site.edge? := by
    intro s hs
    rw [← List.filterMap_eq_map]
    apply List.filterMap_congr
    intro t ht
    have hedge := hb.edge?_of_mem_children (List.mem_of_mem_filter hs)
      (Site.mem_children_of_mem_kids ht)
    exact hedge.symm
  rw [List.flatMap_congr hedge, ← List.filterMap_flatMap, Site.flatMap_kids, hb.filter_edges]
  exact (hb.flatMap_children_perm _).filterMap Site.edge?

theorem Forest.cut_perm (hb : b.Forest) :
    ((b.sites.filter fun s => s.depth ≤ o.maxDepth).flatMap (Site.cut o)).Perm
      (b.sites.filter fun s => s.depth = o.maxDepth + 1) := by
  rw [Site.flatMap_cut]
  refine (hb.flatMap_children_perm _).trans (List.Perm.of_eq ?_)
  apply List.filter_congr
  intro s hs
  cases hp : s.parent? with
  | none => simp [hb.depth_of_root hs hp]
  | some p => simp [hb.depth_of_parent hs hp]

theorem Forest.built_descending_distinct (hb : b.Forest)
    (hids : (b.sites.map (Site.identity b.pathText)).Nodup)
    {x : DebugUnit × Nat} (hx : x ∈ b.units.toList.zipIdx) :
    x.1.Built ∧ x.1.Descending ∧ (b.context o x).Distinct := by
  have hmem : x.1 ∈ b.units := Array.mem_of_getElem? (mem_zipIdx hx)
  refine ⟨(hb _ hmem).1, (hb _ hmem).2, ?_⟩
  rw [sites, List.map_flatMap, List.nodup_flatMap] at hids
  have hunit := hids.1 x.1 (Array.mem_toList_iff.2 hmem)
  rw [DebugUnit.sites, List.map_map] at hunit
  exact hunit

theorem Forest.nodup_identity_stops (hb : b.Forest)
    (hids : (b.sites.map (Site.identity b.pathText)).Nodup) :
    (((b.stops o).map Stop.site).map (Site.identity b.pathText)).Nodup := by
  rw [(hb.stops_perm.map _).nodup_iff]
  exact hids.sublist (List.filter_sublist.map _)

theorem Forest.placed_stops (hb : b.Forest)
    (hids : (b.sites.map (Site.identity b.pathText)).Nodup) :
    ∀ x ∈ b.stops o, Stop.Placed o b.pathText x := by
  intro x hx
  have hsite := List.mem_of_mem_filter (hb.stops_perm.mem_iff.1 (List.mem_map_of_mem hx))
  obtain ⟨y, hy, hx⟩ := List.mem_flatMap.1 hx
  obtain ⟨i, -, rfl⟩ := List.mem_map.1 hx
  obtain ⟨hu, hd, hc⟩ := hb.built_descending_distinct hids hy
  exact ⟨rfl, rfl, hu, hd, hc, (mem_sites.1 hsite).2⟩

theorem Forest.unmet_stops (hb : b.Forest)
    (hids : (b.sites.map (Site.identity b.pathText)).Nodup) : Stop.Unmet {} (b.stops o) := by
  refine ⟨?_, fun x _ q => Std.HashSet.contains_empty, fun x _ => Std.HashMap.not_mem_empty⟩
  have hid : (b.stops o).map Stop.id =
      ((b.stops o).map Stop.site).map (Site.identity b.pathText) := by
    rw [List.map_map]
    apply List.map_congr_left
    intro x hx
    obtain ⟨y, -, hx⟩ := List.mem_flatMap.1 hx
    obtain ⟨i, -, rfl⟩ := List.mem_map.1 hx
    rfl
  rw [hid]
  exact hb.nodup_identity_stops hids

theorem Forest.walkAll_eq_foldl_visit (hb : b.Forest)
    (hids : (b.sites.map (Site.identity b.pathText)).Nodup) :
    b.walkAll o {} = (b.stops o).foldl Stop.visit {} := by
  rw [walkAll_eq_foldl]
  exact foldl_run_eq _ (fun x hx => hb.built_descending_distinct hids hx) _ (hb.unmet_stops hids)

theorem totals_walkAll (hb : b.Forest) (htags : ∀ s ∈ b.sites, Tag.Regular s.tag)
    (hids : (b.sites.map (Site.identity b.pathText)).Nodup) :
    (b.walkAll o {}).totals =
      ((b.stops o).map Stop.site).foldl (Totals.add o b.pathText) (WalkState.totals {}) := by
  have hsound : ∀ x ∈ b.stops o, Stop.Sound o b.pathText x := by
    intro x hx
    have hsite := hb.stops_perm.mem_iff.1 (List.mem_map_of_mem (f := Stop.site) hx)
    exact ⟨hb.placed_stops hids x hx, htags _ (List.mem_of_mem_filter hsite)⟩
  rw [hb.walkAll_eq_foldl_visit hids]
  exact Stop.totals_foldl_visit hsound (hb.unmet_stops hids)

/-- On an empty ledger, a walk reports every entry down to the depth limit with a listed tag once,
reports every edge down to there with a listed end once, and counts exactly what it visits. -/
theorem walkAll_exact (o : WalkOptions) (hb : b.Forest)
    (htags : ∀ s ∈ b.sites, Tag.Regular s.tag)
    (hids : (b.sites.map (Site.identity b.pathText)).Nodup) :
    ((b.walkAll o {}).facts.toList.filter Fact.isExistence).Perm
        ((b.sites.filter fun s => s.depth ≤ o.maxDepth && o.allows s.tag).map fun s =>
          WalkContext.existenceFact b.pathText s.tag (s.identity b.pathText)) ∧
      ((b.walkAll o {}).facts.toList.filter Fact.isRelation).Perm
        ((b.edges.filter fun e =>
            e.2.depth ≤ o.maxDepth && (o.allows e.1.tag || o.allows e.2.tag)).map fun e =>
          WalkContext.relationFact (e.1.identity b.pathText) (e.2.identity b.pathText)) ∧
      (b.walkAll o {}).stats.entries = b.sites.countP (fun s => s.depth ≤ o.maxDepth) ∧
      (b.walkAll o {}).ledger.visited = b.sites.countP (fun s => s.depth ≤ o.maxDepth) ∧
      (b.walkAll o {}).stats.truncated = b.sites.countP (fun s => s.depth = o.maxDepth + 1) ∧
      (b.walkAll o {}).stats.duplicateChildren = 0 := by
  have hperm := hb.stops_perm (o := o)
  have htotals := b.totals_walkAll (o := o) hb htags hids
  rw [Totals.foldl_add] at htotals
  have hexistence := congrArg Totals.existence htotals
  have hrelations := congrArg Totals.relations htotals
  have hcount : ((b.stops o).map Stop.site).length =
      b.sites.countP fun s => s.depth ≤ o.maxDepth := by
    rw [hperm.length_eq, List.countP_eq_length_filter]
  refine ⟨?_, ?_, ?_, ?_, ?_, ?_⟩
  · have hshare : Site.existence o b.pathText = fun s => ([s].filter fun s => o.allows s.tag).map
        fun s => WalkContext.existenceFact b.pathText s.tag (s.identity b.pathText) := by
      funext s
      by_cases hs : o.allows s.tag <;> simp [Site.existence, hs]
    refine (List.Perm.of_eq hexistence).trans ((hperm.flatMap_right _).trans (List.Perm.of_eq ?_))
    rw [hshare, ← List.map_flatMap, ← List.filter_flatMap, List.flatMap_singleton',
      List.filter_filter]
    simp only [Bool.and_comm]
  · have hshare : Site.relations o b.pathText = fun s =>
        (((s.kids o).map (Prod.mk s)).filter fun e => o.allows e.1.tag || o.allows e.2.tag).map
          fun e => WalkContext.relationFact (e.1.identity b.pathText) (e.2.identity b.pathText) := by
      funext s
      rw [Site.relations, List.filter_map, List.map_map]
      rfl
    refine (List.Perm.of_eq hrelations).trans ((hperm.flatMap_right _).trans ?_)
    rw [hshare, ← List.map_flatMap, ← List.filter_flatMap]
    refine ((hb.kids_perm.filter _).map _).trans (List.Perm.of_eq ?_)
    rw [List.filter_filter]
    simp only [Bool.and_comm]
  · exact (congrArg Totals.entries htotals).trans ((Nat.zero_add _).trans hcount)
  · exact (congrArg Totals.visited htotals).trans ((Nat.zero_add _).trans hcount)
  · refine (congrArg Totals.truncated htotals).trans ((Nat.zero_add _).trans ?_)
    rw [(hperm.flatMap_right _).length_eq, hb.cut_perm.length_eq, List.countP_eq_length_filter]
  · exact congrArg Totals.duplicates htotals

/-- A binary with one unit, in which a function stands. -/
def small : Corpus where
  path := Path.ofString "/a"
  units := #[((DebugUnit.empty 0).push none 11 "DW_TAG_compile_unit" []).push (some 0) 42
    "DW_TAG_subprogram" []]

theorem forest_small : small.Forest := by
  intro u hu
  obtain rfl := List.mem_singleton.1 (Array.mem_toList_iff.2 hu)
  have hroot := (DebugUnit.Built.empty 0).push none 11 "DW_TAG_compile_unit" [] rfl
  have hfirst := (DebugUnit.descending_empty 0).push none 11 "DW_TAG_compile_unit" [] (by simp)
  exact ⟨hroot.push (some 0) _ _ _ rfl, hfirst.push (some 0) _ _ _ (by simp [DebugUnit.size_push])⟩

def functionsOnly : WalkOptions where
  allowedTags := ["dw_tag_function"]
  maxDepth := 1
  maxTypeChain := 8
  generatorVersion := "1"

/-- The function is reported, and the edge to it from the unit, which is not reported itself. -/
theorem walkAll_small :
    ((small.walkAll functionsOnly {}).facts.toList.filter Fact.isExistence).length = 1 ∧
      ((small.walkAll functionsOnly {}).facts.toList.filter Fact.isRelation).length = 1 ∧
      (small.walkAll functionsOnly {}).ledger.visited = 2 ∧
      (small.walkAll functionsOnly {}).stats.truncated = 0 := by
  obtain ⟨hexistence, hrelations, -, hvisited, htruncated, -⟩ :=
    walkAll_exact functionsOnly forest_small (by decide +kernel) (by decide +kernel)
  rw [hexistence.length_eq, hrelations.length_eq, hvisited, htruncated]
  decide +kernel

end Corpus

end ElfFacts
