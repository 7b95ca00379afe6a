import ElfFacts.Generator.Documents
import ElfFacts.Proofs.Path.Distinct
import Mathlib.Data.List.Forall2

/-!
# The inputs of a run

Inputs are loaded one by one, and each is walked with a ledger of its own because the inputs are
distinct paths. So everything that is said about an input depends on that input and on the needed
symbols alone.
-/
namespace ElfFacts

namespace PathTable

variable {α β : Type} {t t₁ t₂ : PathTable α} {l p : Path} {x : α}

def without (t : PathTable α) (l : Path) : PathTable α := t.filter fun x => !x.1.same l

theorem get?_insert (h : l.same p = false) :
    get? (t₁ ++ (l, x) :: t₂) p = get? (t₁ ++ t₂) p := by
  simp [get?, List.find?_append, h]

theorem has_insert : has (t₁ ++ (l, x) :: t₂) p = (has (t₁ ++ t₂) p || l.same p) := by
  simp only [has, List.any_append, List.any_cons]
  cases l.same p <;> simp

theorem get?_map (f : α → β) (t : PathTable α) (p : Path) :
    get? (t.map fun x => (x.1, f x.2)) p = (get? t p).map f := by
  induction t with
  | nil => rfl
  | cons x t ih =>
    by_cases hx : x.1.same p = true
    · simp [get?, hx]
    · simpa [get?, hx] using ih

theorem get?_of_mem (ht : t.Pairwise fun x y => x.1.parts ≠ y.1.parts) (h : (p, x) ∈ t) :
    get? t p = some x := by
  induction t with
  | nil => cases h
  | cons y t ih =>
    rw [List.pairwise_cons] at ht
    rcases List.mem_cons.1 h with rfl | h
    · simp [get?, Path.same_refl]
    · have hne : y.1.same p = false := by
        rw [← Bool.not_eq_true, Path.same_iff]
        exact ht.1 _ h
      have hrest := ih ht.2 h
      simpa [get?, hne] using hrest

end PathTable

theorem Ledgers.ledger_empty (p : Path) : ({} : Ledgers).ledger p = {} := by
  simp [ledger, ledger?]

namespace Corpus

/-- What is said about a corpus that is walked on its own. -/
def ownBlocks (needed : NeededSymbols) (o : WalkOptions) (c : Corpus) : CorpusBlocks :=
  ⟨c.metadataBlock, c.symbolBlock needed, c.debugBlock (c.walkAll o {}).facts⟩

theorem blocks_fst (c : Corpus) (needed : NeededSymbols) (o : WalkOptions) {ledgers : Ledgers}
    (h : ledgers.ledger c.path = {}) : (c.blocks needed o ledgers).1 = c.ownBlocks needed o := by
  simp only [ownBlocks, blocks, h]

theorem ledger_blocks_snd (c : Corpus) (needed : NeededSymbols) (o : WalkOptions)
    (ledgers : Ledgers) {p : Path} (h : c.path.parts ≠ p.parts) :
    (c.blocks needed o ledgers).2.ledger p = ledgers.ledger p := by
  simp only [Ledgers.ledger, blocks, Ledgers.ledger?_put, if_neg h]

end Corpus

namespace Generator

variable {s : Surroundings} {needed : NeededSymbols} {o : WalkOptions}

def Loads (s : Surroundings) (p : Path) (x : Path × Corpus) : Prop :=
  x.1 = p ∧ s.load p = .ok x.2

theorem loadAll_eq_ok_iff {paths : List Path} {t : PathTable Corpus} :
    loadAll s paths = .ok t ↔ List.Forall₂ (Loads s) paths t := by
  induction paths generalizing t with
  | nil =>
    rw [loadAll, List.forall₂_nil_left_iff, Except.ok.injEq, eq_comm]
  | cons p paths ih =>
    rw [loadAll]
    constructor
    · intro h
      cases hp : s.load p with
      | error fault => simp [hp] at h
      | ok c =>
        cases hr : loadAll s paths with
        | error fault => simp [hp, hr, Except.map] at h
        | ok rest =>
          simp only [hp, hr, Except.map, Except.ok.injEq] at h
          subst h
          exact List.Forall₂.cons ⟨rfl, hp⟩ (ih.1 hr)
    · intro h
      cases h with
      | @cons _ x _ rest hx hrest =>
        obtain ⟨rfl, hload⟩ := hx
        simp only [hload, ih.2 hrest, Except.map]

theorem loadAll_insert {before after : List Path} {t : PathTable Corpus} {l : Path} {c : Corpus}
    (h : loadAll s (before ++ after) = .ok t) (hl : s.load l = .ok c) :
    ∃ t₁ t₂, t = t₁ ++ t₂ ∧ List.Forall₂ (Loads s) before t₁ ∧ List.Forall₂ (Loads s) after t₂ ∧
      loadAll s (before ++ l :: after) = .ok (t₁ ++ (l, c) :: t₂) := by
  have hall := loadAll_eq_ok_iff.1 h
  obtain ⟨t₁, t₂, hbefore, hafter, rfl⟩ :
      ∃ t₁ t₂, List.Forall₂ (Loads s) before t₁ ∧ List.Forall₂ (Loads s) after t₂ ∧
        t = t₁ ++ t₂ := by
    refine ⟨t.take before.length, t.drop before.length, ?_, ?_, (List.take_append_drop _ _).symm⟩
    · have := List.forall₂_take before.length hall
      rwa [List.take_left] at this
    · have := List.forall₂_drop before.length hall
      rwa [List.drop_left] at this
  refine ⟨t₁, t₂, rfl, hbefore, hafter, loadAll_eq_ok_iff.2 ?_⟩
  exact List.rel_append hbefore (List.Forall₂.cons ⟨rfl, hl⟩ hafter)

theorem allBlocks_eq_map {t : PathTable Corpus} (ledgers : Ledgers)
    (ht : t.Pairwise fun x y => x.2.path.parts ≠ y.2.path.parts)
    (hledgers : ∀ x ∈ t, ledgers.ledger x.2.path = {}) :
    allBlocks needed o ledgers t = t.map fun x => (x.1, x.2.ownBlocks needed o) := by
  induction t generalizing ledgers with
  | nil => rfl
  | cons x t ih =>
    rw [List.pairwise_cons] at ht
    have hown := x.2.blocks_fst needed o (hledgers x (List.mem_cons_self ..))
    have hrest : ∀ y ∈ t, (x.2.blocks needed o ledgers).2.ledger y.2.path = {} := by
      intro y hy
      rw [x.2.ledger_blocks_snd needed o ledgers (ht.1 y hy)]
      exact hledgers y (List.mem_cons_of_mem x hy)
    rw [List.map_cons, ← hown, ← ih _ ht.2 hrest]
    rfl

end Generator

end ElfFacts
