import ElfFacts.Proofs.Debug.Forest
import ElfFacts.Proofs.Walk.Fresh

/-!
# The entries of a binary

A site is an entry together with its unit. The units of a binary form one forest of sites, with
edges from parents to children, and every site has a depth, a tag and an identity of its own.
-/
namespace ElfFacts

/-- An entry of a binary, by its unit and its index there. -/
structure Site where
  unit : DebugUnit
  index : Nat

namespace Site

def tag (s : Site) : String := ((s.unit.get? s.index).map fun e => Tag.normalize e.tag).getD ""

def depth (s : Site) : Nat := s.unit.depth s.index

/-- The identity folded along the ancestors, starting at the root without a parent. -/
def identity (path : String) (s : Site) : Identity := s.unit.identityAt path s.index

def parent? (s : Site) : Option Site := (s.unit.parent? s.index).map (Site.mk s.unit)

def children (s : Site) : List Site := (s.unit.childrenAt s.index).map (Site.mk s.unit)

def edge? (s : Site) : Option (Site × Site) := s.parent?.map fun p => (p, s)

end Site

def DebugUnit.sites (u : DebugUnit) : List Site := (List.range u.entries.size).map (Site.mk u)

namespace Corpus

def sites (b : Corpus) : List Site := b.units.toList.flatMap DebugUnit.sites

def edges (b : Corpus) : List (Site × Site) := b.sites.filterMap Site.edge?

/-- Units that are built by adding entries below entries that are already there. -/
def Forest (b : Corpus) : Prop := ∀ u ∈ b.units, u.Built ∧ u.Descending

variable {b : Corpus}

theorem mem_sites {s : Site} : s ∈ b.sites ↔ s.unit ∈ b.units ∧ s.index < s.unit.entries.size := by
  simp only [sites, DebugUnit.sites, List.mem_flatMap, List.mem_map, List.mem_range,
    Array.mem_toList_iff]
  constructor
  · rintro ⟨u, hu, i, hi, rfl⟩
    exact ⟨hu, hi⟩
  · rintro ⟨hu, hi⟩
    exact ⟨s.unit, hu, s.index, hi, rfl⟩

theorem Forest.depth_of_parent (hb : b.Forest) {s p : Site} (hs : s ∈ b.sites)
    (hp : s.parent? = some p) : s.depth = p.depth + 1 := by
  obtain ⟨q, hq, rfl⟩ := Option.map_eq_some_iff.1 hp
  exact DebugUnit.depth_of_parent (hb _ (mem_sites.1 hs).1).2 hq

theorem Forest.depth_of_root (hb : b.Forest) {s : Site} (hs : s ∈ b.sites)
    (hp : s.parent? = none) : s.depth = 0 :=
  (DebugUnit.depth_eq_zero_iff (hb _ (mem_sites.1 hs).1).2 _).2 (Option.map_eq_none_iff.1 hp)

theorem Forest.parent?_of_mem_children (hb : b.Forest) {s t : Site} (hs : s ∈ b.sites)
    (ht : t ∈ s.children) : t.parent? = some s := by
  obtain ⟨j, hj, rfl⟩ := List.mem_map.1 ht
  rw [(hb _ (mem_sites.1 hs).1).1.childrenAt_eq, List.mem_filter, decide_eq_true_eq] at hj
  exact congrArg (Option.map (Site.mk s.unit)) hj.2

theorem Forest.edge?_of_mem_children (hb : b.Forest) {s t : Site} (hs : s ∈ b.sites)
    (ht : t ∈ s.children) : t.edge? = some (s, t) := by
  rw [Site.edge?, hb.parent?_of_mem_children hs ht, Option.map_some]

theorem Forest.filter_edges (hb : b.Forest) (n : Nat) :
    (b.edges.filter fun e => e.2.depth ≤ n) =
      (b.sites.filter fun s => s.parent?.any fun p => p.depth < n).filterMap Site.edge? := by
  rw [edges, List.filter_filterMap, List.filterMap_filter]
  apply List.filterMap_congr
  intro s hs
  rw [Site.edge?]
  cases hp : s.parent? with
  | none => rfl
  | some p =>
    have hdepth : decide (s.depth ≤ n) = decide (p.depth < n) := by
      rw [hb.depth_of_parent hs hp]
      rfl
    rw [Option.map_some, Option.filter_some, Option.any_some, hdepth]

theorem Forest.flatMap_children_perm (hb : b.Forest) (q : Site → Bool) :
    ((b.sites.filter q).flatMap Site.children).Perm (b.sites.filter fun s => s.parent?.any q) := by
  rw [sites, List.filter_flatMap, List.filter_flatMap, List.flatMap_assoc]
  apply List.Perm.flatMap_left
  intro u hu
  have hbuilt := (hb u (Array.mem_toList_iff.1 hu)).1
  have hdesc := (hb u (Array.mem_toList_iff.1 hu)).2
  rw [DebugUnit.sites, List.filter_map, List.filter_map, List.flatMap_map]
  have hkids : (fun i => (Site.mk u i).children) = fun i => (u.childrenAt i).map (Site.mk u) := rfl
  rw [hkids, ← List.map_flatMap]
  refine ((DebugUnit.flatMap_childrenAt_perm hbuilt (List.nodup_range.filter _)).trans ?_).map _
  apply List.Perm.of_eq
  apply List.filter_congr
  intro i hi
  cases hp : u.parent? i with
  | none => simp [Site.parent?, hp]
  | some p =>
    have hlt : p < u.entries.size := Nat.lt_trans (hdesc i p hp) (List.mem_range.1 hi)
    simp [Site.parent?, hp, hlt]

end Corpus

end ElfFacts
