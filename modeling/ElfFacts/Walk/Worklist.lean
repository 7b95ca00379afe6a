import ElfFacts.Walk.Visit

/-!
# The walk

A stack of entries still to be visited drives the walk. It comes to an end because every visit
replaces an entry by at most as many deeper ones as an entry of the unit has children, and no entry
below the depth limit has any.
-/
namespace ElfFacts.WalkContext

def branching (u : DebugUnit) : Nat :=
  u.entries.toList.foldr (fun e n => max e.children.size n) 0

def fullTree (b : Nat) : Nat → Nat
  | 0 => 1
  | n + 1 => 1 + b * fullTree b n

def weight (c : WalkContext) (f : WalkFrame) : Nat :=
  fullTree (branching c.unit) (c.options.maxDepth - f.depth)

def load (c : WalkContext) : List WalkFrame → Nat
  | [] => 0
  | f :: rest => c.weight f + c.load rest

theorem load_append (c : WalkContext) (l r : List WalkFrame) :
    c.load (l ++ r) = c.load l + c.load r := by
  induction l with
  | nil => exact (Nat.zero_add _).symm
  | cons f l ih => rw [List.cons_append, load, load, ih, Nat.add_assoc]

theorem size_children_le_branching {u : DebugUnit} {i : Nat} {e : DebugEntry}
    (h : u.get? i = some e) : e.children.size ≤ branching u := by
  have hm : e ∈ u.entries.toList := by
    rw [Array.mem_toList_iff]
    exact Array.mem_of_getElem? h
  revert hm
  unfold branching
  generalize u.entries.toList = l
  induction l with
  | nil => simp
  | cons a l ih =>
    intro hm
    rcases List.mem_cons.1 hm with rfl | hm
    · exact Nat.le_max_left _ _
    · exact Nat.le_trans (ih hm) (Nat.le_max_right _ _)

/-- What meeting a child can do. -/
theorem meetChild_cases (c : WalkContext) (f : WalkFrame) (tag : String) (b : Brood) (i : Nat) :
    (c.unit.get? i = none ∧ c.meetChild f tag b i = b) ∨
      ∃ child, c.unit.get? i = some child ∧
        (b.state.ledger.hasChild f.id (c.idOf child (some f.id)) = true ∧
            c.meetChild f tag b i = skipChild b ∨
          b.state.ledger.hasChild f.id (c.idOf child (some f.id)) = false ∧
            c.meetChild f tag b i =
              c.adoptChild f tag (Tag.normalize child.tag) i (c.idOf child (some f.id))
                (b.withLedger (b.state.ledger.addChild f.id (c.idOf child (some f.id))))) := by
  cases he : c.unit.get? i with
  | none => exact .inl ⟨rfl, by simp only [meetChild, he]⟩
  | some child =>
    refine .inr ⟨child, rfl, ?_⟩
    cases hc : b.state.ledger.hasChild f.id (c.idOf child (some f.id)) with
    | true => exact .inl ⟨rfl, by simp only [meetChild, he, Ledger.recordChild_of_hasChild hc]⟩
    | false => exact .inr ⟨rfl, by simp only [meetChild, he, Ledger.recordChild_of_new hc]⟩

theorem size_fresh_meetChild (c : WalkContext) (f : WalkFrame) (tag : String) (b : Brood) (i : Nat) :
    (c.meetChild f tag b i).fresh.size ≤ b.fresh.size + 1 := by
  rcases c.meetChild_cases f tag b i with ⟨-, h⟩ | ⟨child, -, ⟨-, h⟩ | ⟨-, h⟩⟩
  · rw [h]
    exact Nat.le_succ _
  · rw [h]
    exact Nat.le_succ _
  · rw [h]
    exact Nat.le_of_eq (Array.size_push _)

theorem depth_fresh_meetChild (c : WalkContext) (f : WalkFrame) (tag : String) (b : Brood) (i : Nat)
    (hb : ∀ g ∈ b.fresh, g.depth = f.depth + 1) :
    ∀ g ∈ (c.meetChild f tag b i).fresh, g.depth = f.depth + 1 := by
  intro g hg
  rcases c.meetChild_cases f tag b i with ⟨-, h⟩ | ⟨child, -, ⟨-, h⟩ | ⟨-, h⟩⟩
  · exact hb g (h ▸ hg)
  · rw [h] at hg
    exact hb g hg
  · rw [h] at hg
    rcases Array.mem_push.1 hg with hg | rfl
    · exact hb g hg
    · rfl

theorem fresh_foldl_meetChild (c : WalkContext) (f : WalkFrame) (tag : String) (l : List Nat)
    (b : Brood) (hb : ∀ g ∈ b.fresh, g.depth = f.depth + 1) :
    (l.foldl (c.meetChild f tag) b).fresh.size ≤ b.fresh.size + l.length ∧
      ∀ g ∈ (l.foldl (c.meetChild f tag) b).fresh, g.depth = f.depth + 1 := by
  induction l generalizing b with
  | nil => exact ⟨Nat.le_refl _, hb⟩
  | cons i l ih =>
    have h := ih (c.meetChild f tag b i) (c.depth_fresh_meetChild f tag b i hb)
    have hs := c.size_fresh_meetChild f tag b i
    refine ⟨?_, h.2⟩
    have := h.1
    simp only [List.foldl_cons, List.length_cons]
    omega

theorem load_of_depth (c : WalkContext) (d : Nat) (l : List WalkFrame)
    (h : ∀ g ∈ l, g.depth = d) :
    c.load l = l.length * fullTree (branching c.unit) (c.options.maxDepth - d) := by
  induction l with
  | nil => exact (Nat.zero_mul _).symm
  | cons g l ih =>
    have hg : g.depth = d := h g (List.mem_cons_self ..)
    have hl := ih fun g' hg' => h g' (List.mem_cons_of_mem _ hg')
    rw [load, weight, hg, hl, List.length_cons, Nat.succ_mul, Nat.add_comm]

theorem load_visitEntry (c : WalkContext) (f : WalkFrame) (e : DebugEntry) (s : WalkState)
    (he : c.unit.get? f.index = some e) :
    c.load (c.visitEntry f e s).2 < c.weight f := by
  unfold visitEntry
  simp only
  generalize hb : ({ state := _ } : Brood) = b
  have hfresh : b.fresh = #[] := by rw [← hb]
  have h := c.fresh_foldl_meetChild f (Tag.normalize e.tag) (c.reachable f e) b
    (by simp [hfresh])
  rw [hfresh] at h
  have hsum := c.load_of_depth (f.depth + 1)
    ((c.reachable f e).foldl (c.meetChild f (Tag.normalize e.tag)) b).fresh.toList
    (by simpa using h.2)
  rw [hsum]
  have hlen := h.1
  simp only [Array.size_empty, Nat.zero_add] at hlen
  rw [Array.length_toList]
  unfold weight
  by_cases hd : f.depth < c.options.maxDepth
  · have hr : c.options.maxDepth - f.depth = (c.options.maxDepth - (f.depth + 1)) + 1 := by omega
    rw [hr, fullTree]
    have hc := size_children_le_branching he
    simp only [reachable, hd, if_true, Array.length_toList] at hlen
    simp only [reachable, hd, if_true]
    have := Nat.mul_le_mul_right (fullTree (branching c.unit) (c.options.maxDepth - (f.depth + 1)))
      (Nat.le_trans hlen hc)
    omega
  · simp only [reachable, hd, if_false, List.foldl_nil, hfresh, Array.size_empty, Nat.zero_mul]
    cases c.options.maxDepth - f.depth with
    | zero => exact Nat.one_pos
    | succ n => rw [fullTree]; omega

theorem fullTree_pos (b n : Nat) : 0 < fullTree b n := by
  cases n with
  | zero => exact Nat.one_pos
  | succ n => rw [fullTree]; omega

theorem load_visit (c : WalkContext) (f : WalkFrame) (s : WalkState) :
    c.load (c.visit f s).2 < c.weight f := by
  unfold visit
  split
  · exact fullTree_pos _ _
  · next e he => exact c.load_visitEntry f e s he

/-- Visits the first entry of the stack; its children go before the others. -/
def run (c : WalkContext) : List WalkFrame → WalkState → WalkState
  | [], s => s
  | f :: rest, s => run c ((c.visit f s).2 ++ rest) (c.visit f s).1
termination_by frames => c.load frames
decreasing_by
  rw [load_append, load]
  exact Nat.add_lt_add_right (c.load_visit f s) (c.load rest)

theorem weight_le_load (c : WalkContext) {f : WalkFrame} {frames : List WalkFrame}
    (h : f ∈ frames) : c.weight f ≤ c.load frames := by
  induction frames with
  | nil => cases h
  | cons g rest ih =>
    rw [load]
    rcases List.mem_cons.1 h with rfl | h
    · exact Nat.le_add_right _ _
    · exact Nat.le_trans (ih h) (Nat.le_add_left _ _)

/-- The subtree below an entry, visited by recursion instead of a stack: first the entry, then the
subtrees of its new children in order. -/
def preorder (c : WalkContext) (f : WalkFrame) (s : WalkState) : WalkState :=
  (c.visit f s).2.attach.foldl (fun s g => preorder c g.1 s) (c.visit f s).1
termination_by c.weight f
decreasing_by exact Nat.lt_of_le_of_lt (c.weight_le_load g.2) (c.load_visit f _)

@[simp] theorem run_nil (c : WalkContext) (s : WalkState) : c.run [] s = s := by
  rw [run]

theorem run_cons (c : WalkContext) (f : WalkFrame) (rest : List WalkFrame) (s : WalkState) :
    c.run (f :: rest) s = c.run ((c.visit f s).2 ++ rest) (c.visit f s).1 := by
  rw [run]

end ElfFacts.WalkContext

namespace ElfFacts.Corpus

/-- Walks the subtree below an entry; nothing happens where there is no such entry. -/
def walk (c : Corpus) (o : WalkOptions) (unitIndex root : Nat) (parent : Option Identity)
    (s : WalkState) : WalkState :=
  match c.units[unitIndex]? with
  | none => s
  | some unit =>
    let context : WalkContext := { options := o, path := c.pathText, unitIndex, unit }
    match unit.get? root with
    | none => s
    | some e => context.run [⟨root, context.idOf e parent, 0⟩] s

def walkUnit (c : Corpus) (o : WalkOptions) (s : WalkState) (unitIndex : Nat) : WalkState :=
  match c.units[unitIndex]? with
  | none => s
  | some unit => unit.roots.foldl (fun s root => c.walk o unitIndex root none s) s

def walkAll (c : Corpus) (o : WalkOptions) (s : WalkState) : WalkState :=
  (List.range c.units.size).foldl (c.walkUnit o) s

end ElfFacts.Corpus
