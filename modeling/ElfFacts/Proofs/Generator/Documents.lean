import ElfFacts.Proofs.Generator.Inputs

/-!
# The documents of a run

A run succeeds if there is a main binary and every input is a file that can be loaded. Every input
then has the blocks that its own file gives, and every main binary a document.
-/
namespace ElfFacts

theorem Request.exists_mem_inputs {r : Request} {p : Path}
    (h : p ∈ r.mains ++ r.libraries ++ r.compilers) : ∃ q ∈ r.inputs, q.same p = true :=
  Path.exists_mem_distinct h

namespace Generator

variable {s : Surroundings} {needed : NeededSymbols} {o : WalkOptions} {config : Config}
  {r : Request}

theorem keys_of_loads {paths : List Path} {t : PathTable Corpus}
    (h : List.Forall₂ (Loads s) paths t) :
    t.map (·.1) = paths ∧ ∀ x ∈ t, s.load x.1 = .ok x.2 := by
  induction h with
  | nil => exact ⟨rfl, fun x hx => (List.not_mem_nil hx).elim⟩
  | @cons p x paths t hx _ ih =>
    obtain ⟨rfl, hload⟩ := hx
    refine ⟨congrArg _ ih.1, fun y hy => ?_⟩
    rcases List.mem_cons.1 hy with rfl | hy
    · exact hload
    · exact ih.2 y hy

theorem pairwise_keys {t : PathTable Corpus} (h : loadAll s r.inputs = .ok t) :
    t.Pairwise fun x y => x.1.parts ≠ y.1.parts := by
  have hkeys := (keys_of_loads (loadAll_eq_ok_iff.1 h)).1
  have hdistinct := Path.pairwise_distinctFrom [] (r.mains ++ r.libraries ++ r.compilers)
  rw [← Path.distinct, ← Request.inputs, ← hkeys, List.pairwise_map] at hdistinct
  exact hdistinct

def BlocksOf (s : Surroundings) (needed : NeededSymbols) (o : WalkOptions) (p : Path)
    (b : CorpusBlocks) : Prop :=
  ∃ c, s.load p = .ok c ∧ b = c.ownBlocks needed o

theorem plan_blocks (hpath : ∀ p c, s.load p = .ok c → c.path.same p = true)
    {t : PathTable Corpus} (h : loadAll s r.inputs = .ok t) :
    (plan config r t).blocks =
      t.map fun x => (x.1, x.2.ownBlocks (plan config r t).needed config.walkOptions) := by
  have hloads := (keys_of_loads (loadAll_eq_ok_iff.1 h)).2
  have hparts : ∀ x ∈ t, x.2.path.parts = x.1.parts :=
    fun x hx => Path.same_iff.1 (hpath x.1 x.2 (hloads x hx))
  refine allBlocks_eq_map {} ?_ fun x _ => Ledgers.ledger_empty _
  refine (pairwise_keys h).imp_of_mem ?_
  intro x y hx hy hne
  rwa [hparts x hx, hparts y hy]

theorem get?_blocks (hpath : ∀ p c, s.load p = .ok c → c.path.same p = true)
    {t : PathTable Corpus} (h : loadAll s r.inputs = .ok t) {p : Path} (hp : p ∈ r.inputs) :
    ∃ b, (plan config r t).blocks.get? p = some b ∧
      BlocksOf s (plan config r t).needed config.walkOptions p b := by
  obtain ⟨hkeys, hloads⟩ := keys_of_loads (loadAll_eq_ok_iff.1 h)
  rw [← hkeys] at hp
  obtain ⟨x, hx, rfl⟩ := List.mem_map.1 hp
  refine ⟨x.2.ownBlocks (plan config r t).needed config.walkOptions, ?_, x.2, hloads x hx, rfl⟩
  rw [plan_blocks hpath h, PathTable.get?_map, PathTable.get?_of_mem (pairwise_keys h) hx]
  rfl

theorem get?_blocks_of_get? (config : Config)
    (hpath : ∀ p c, s.load p = .ok c → c.path.same p = true)
    {t : PathTable Corpus} (hload : loadAll s r.inputs = .ok t) {m : Path} {x : Corpus}
    (hx : t.get? m = some x) :
    ∃ own, (∃ p, p.same m = true ∧
        BlocksOf s (plan config r t).needed config.walkOptions p own) ∧
      (plan config r t).blocks.get? m = some own := by
  obtain ⟨y, hy, rfl⟩ := Option.map_eq_some_iff.1 hx
  have hsame : y.1.same m = true := by simpa using (List.find?_eq_some_iff_append.1 hy).1
  have hy' := (keys_of_loads (loadAll_eq_ok_iff.1 hload)).2 y (List.mem_of_find?_eq_some hy)
  refine ⟨_, ⟨y.1, hsame, y.2, hy', rfl⟩, ?_⟩
  rw [plan_blocks hpath hload, PathTable.get?_map, hx]
  rfl

theorem forall₂_filterMap {α β : Type} {R : α → β → Prop} {f : α → Option β} {xs : List α}
    (h : ∀ x ∈ xs, ∃ y, f x = some y ∧ R x y) : List.Forall₂ R xs (xs.filterMap f) := by
  induction xs with
  | nil => exact List.Forall₂.nil
  | cons x xs ih =>
    obtain ⟨y, hy, hxy⟩ := h x (List.mem_cons_self ..)
    rw [List.filterMap_cons_some hy]
    exact List.Forall₂.cons hxy (ih fun z hz => h z (List.mem_cons_of_mem x hz))

def bySection (found : List CorpusBlocks) : List Block :=
  found.map (·.metadata) ++ found.map (·.symbols) ++ found.map (·.debugInfo)

theorem sections_cons {blocks : PathTable CorpusBlocks} {m : Path} {own : CorpusBlocks}
    (h : blocks.get? m = some own) (members : List Path) :
    sections blocks (m :: members) = bySection (own :: members.filterMap blocks.get?) := by
  rw [sections, List.filterMap_cons_some h]
  rfl

theorem documents_eq_ok_iff {ds : List Document} :
    documents s config r = .ok ds ↔ r.mains ≠ [] ∧ (∀ p ∈ r.inputs, s.isFile p = true) ∧
      ∃ t, loadAll s r.inputs = .ok t ∧
        ds = assemble s config (plan config r t) [] (Path.distinct r.mains) := by
  unfold documents
  by_cases hmains : r.mains = []
  · simp [hmains]
  · rw [if_neg hmains]
    cases hfind : r.inputs.find? fun p => !s.isFile p with
    | some p =>
      have hmem := List.mem_of_find?_eq_some hfind
      have hfile := List.find?_some hfind
      simp only [reduceCtorEq, false_iff]
      rintro ⟨-, hfiles, -⟩
      rw [hfiles p hmem] at hfile
      cases hfile
    | none =>
      have hfiles : ∀ p ∈ r.inputs, s.isFile p = true := by
        intro p hp
        simpa using List.find?_eq_none.1 hfind p hp
      cases hload : loadAll s r.inputs with
      | error fault => simp
      | ok t =>
        simp only [Except.ok.injEq, exists_eq_left', eq_comm (a := ds)]
        exact ⟨fun h => ⟨hmains, hfiles, h⟩, fun h => h.2.2⟩

theorem exists_get?_of_mem_mains {t : PathTable Corpus} (hload : loadAll s r.inputs = .ok t)
    {m : Path} (hm : m ∈ r.mains) : ∃ x, t.get? m = some x := by
  obtain ⟨q, hq, hqm⟩ := Request.exists_mem_inputs (r := r) (p := m) (by simp [hm])
  rw [← (keys_of_loads (loadAll_eq_ok_iff.1 hload)).1] at hq
  obtain ⟨y, hy, rfl⟩ := List.mem_map.1 hq
  have hsome : (t.find? (·.1.same m)).isSome = true := List.find?_isSome.2 ⟨y, hy, hqm⟩
  obtain ⟨x, hx⟩ := Option.isSome_iff_exists.1 hsome
  exact ⟨x.2, by rw [PathTable.get?, hx, Option.map_some]⟩

theorem map_main_assemble {plan : Plan} {known : PathTable Block} {mains : List Path}
    (h : ∀ m ∈ mains, ∃ x, plan.corpora.get? m = some x) :
    (assemble s config plan known mains).map (·.main) = mains := by
  induction mains generalizing known with
  | nil => rfl
  | cons m mains ih =>
    obtain ⟨x, hx⟩ := h m (List.mem_cons_self ..)
    rw [assemble, hx]
    exact congrArg (List.cons m) (ih fun m' hm' => h m' (List.mem_cons_of_mem m hm'))

theorem map_main_documents {ds : List Document} (hds : documents s config r = .ok ds) :
    ds.map (·.main) = Path.distinct r.mains := by
  obtain ⟨-, -, t, hload, rfl⟩ := documents_eq_ok_iff.1 hds
  exact map_main_assemble fun m hm =>
    exists_get?_of_mem_mains hload (Path.mem_of_mem_distinct hm)

end Generator

end ElfFacts
