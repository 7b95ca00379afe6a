import ElfFacts.Proofs.Generator.Inputs

/-!
# The libraries that a main binary needs

Blocks of needed libraries are kept for later documents. Whatever has been kept, a library has the
block that its own file gives, so a place that becomes an input takes away its own blocks and leaves
those of all other places.
-/
namespace ElfFacts

open PathTable

theorem PathTable.without_append {α : Type} (t₁ t₂ : PathTable α) (l : Path) :
    (t₁ ++ t₂).without l = t₁.without l ++ t₂.without l := List.filter_append ..

theorem PathTable.get?_without {α : Type} (t : PathTable α) {l p : Path} (h : p.same l = false) :
    get? (t.without l) p = get? t p := by
  have hkeep : (fun x : Path × α => !x.1.same l && x.1.same p) = fun x => x.1.same p := by
    funext x
    cases hx : x.1.same p with
    | false => exact Bool.and_false _
    | true => rw [Path.same_congr_left hx, h]; rfl
  rw [get?, without, List.find?_filter]
  simp only [Bool.decide_and, Bool.decide_eq_true, hkeep]
  rfl

namespace Generator

variable {s : Surroundings} {needed : NeededSymbols} {known : PathTable Block} {l p : Path}

/-- Every library with a block of the symbols in its file. -/
def SymbolsOf (s : Surroundings) (needed : NeededSymbols) (t : PathTable Block) : Prop :=
  ∀ x ∈ t, ∃ c, s.load x.1 = .ok c ∧
    x.2 = ⟨"Needed library symbols: " ++ x.1.display, (c.symbolFacts needed).toArray⟩

theorem SymbolsOf.append {t₁ t₂ : PathTable Block} (h₁ : SymbolsOf s needed t₁)
    (h₂ : SymbolsOf s needed t₂) : SymbolsOf s needed (t₁ ++ t₂) := by
  intro x hx
  rcases List.mem_append.1 hx with hx | hx
  · exact h₁ x hx
  · exact h₂ x hx

theorem SymbolsOf.singleton {c : Corpus} (h : s.load p = .ok c) :
    SymbolsOf s needed [(p, auxiliaryBlock needed p c)] := by
  intro x hx
  obtain rfl := List.mem_singleton.1 hx
  exact ⟨c, h, rfl⟩

/-- A block comes from what is known or from the file of the library. -/
theorem auxiliary_cases (s : Surroundings) (needed : NeededSymbols) (known : PathTable Block)
    (p : Path) :
    (∃ x ∈ known, x.1.same p = true ∧ auxiliary s needed known p = (some x.2, known)) ∨
      (known.get? p = none ∧ (auxiliary s needed known p = (none, known) ∨
        ∃ c, s.load p = .ok c ∧ auxiliary s needed known p =
          (some (auxiliaryBlock needed p c), known ++ [(p, auxiliaryBlock needed p c)]))) := by
  cases hk : known.get? p with
  | some b =>
    obtain ⟨x, hx, rfl⟩ := Option.map_eq_some_iff.1 hk
    have hp : x.1.same p = true := by simpa using List.find?_eq_some_iff_append.1 hx |>.1
    refine .inl ⟨x, List.mem_of_find?_eq_some hx, hp, ?_⟩
    simp only [auxiliary, hk]
  | none =>
    refine .inr ⟨rfl, ?_⟩
    cases hl : s.load p with
    | error fault => exact .inl (by simp only [auxiliary, hk, hl])
    | ok c => exact .inr ⟨c, rfl, by simp only [auxiliary, hk, hl]⟩

theorem auxiliary_found (hknown : SymbolsOf s needed known) (p : Path) :
    ∃ found : PathTable Block, (auxiliary s needed known p).1.toList = found.map (·.2) ∧
      SymbolsOf s needed found ∧ (∀ x ∈ found, x.1.same p = true) ∧
      SymbolsOf s needed (auxiliary s needed known p).2 := by
  rcases auxiliary_cases s needed known p with
    ⟨x, hx, hp, he⟩ | ⟨-, he | ⟨c, hc, he⟩⟩
  · refine ⟨[x], by rw [he]; rfl, ?_, ?_, by rwa [he]⟩
    · intro y hy
      exact hknown y (List.mem_singleton.1 hy ▸ hx)
    · intro y hy
      exact List.mem_singleton.1 hy ▸ hp
  · refine ⟨[], by rw [he]; rfl, ?_, ?_, by rwa [he]⟩
    · intro y hy
      cases hy
    · intro y hy
      cases hy
  · refine ⟨[(p, auxiliaryBlock needed p c)], by rw [he]; rfl, SymbolsOf.singleton hc, ?_, ?_⟩
    · intro y hy
      obtain rfl := List.mem_singleton.1 hy
      exact Path.same_refl p
    · rw [he]
      exact hknown.append (SymbolsOf.singleton hc)

theorem auxiliary_of_same (h : p.same l = true) :
    (auxiliary s needed known p).2.without l = known.without l := by
  rcases auxiliary_cases s needed known p with ⟨x, -, -, he⟩ | ⟨-, he | ⟨c, -, he⟩⟩
  · rw [he]
  · rw [he]
  · have hnone : without [(p, auxiliaryBlock needed p c)] l = [] := by simp [without, h]
    rw [he, without_append, hnone, List.append_nil]

theorem auxiliary_of_not_same (h : p.same l = false) :
    auxiliary s needed (known.without l) p =
      ((auxiliary s needed known p).1, (auxiliary s needed known p).2.without l) := by
  unfold auxiliary
  rw [known.get?_without h]
  cases known.get? p with
  | some b => rfl
  | none =>
    cases s.load p with
    | error fault => rfl
    | ok c => simp [without, h]

theorem auxiliaries_cons (s : Surroundings) (needed : NeededSymbols) (known : PathTable Block)
    (p : Path) (paths : List Path) :
    auxiliaries s needed known (p :: paths) =
      ((auxiliary s needed known p).1.toList ++
          (auxiliaries s needed (auxiliary s needed known p).2 paths).1,
        (auxiliaries s needed (auxiliary s needed known p).2 paths).2) := rfl

theorem auxiliaries_without (hknown : SymbolsOf s needed known) (l : Path) (paths : List Path) :
    ∃ found : PathTable Block, (auxiliaries s needed known paths).1 = found.map (·.2) ∧
      SymbolsOf s needed found ∧ SymbolsOf s needed (auxiliaries s needed known paths).2 ∧
      auxiliaries s needed (known.without l) (paths.filter fun p => !p.same l) =
        ((found.without l).map (·.2), (auxiliaries s needed known paths).2.without l) := by
  induction paths generalizing known with
  | nil => exact ⟨[], rfl, fun x hx => (List.not_mem_nil hx).elim, hknown, rfl⟩
  | cons p paths ih =>
    obtain ⟨first, hfirst, hsymbols, hplace, hnext⟩ := auxiliary_found hknown p
    obtain ⟨others, hothers, hsymbols', hlast, hwithout⟩ := ih hnext
    have hboth := without_append first others l
    refine ⟨first ++ others, ?_, hsymbols.append hsymbols', hlast, ?_⟩
    · rw [auxiliaries_cons, hfirst, hothers, List.map_append]
    · cases hp : p.same l with
      | true =>
        have hnone : first.without l = [] := by
          rw [without, List.filter_eq_nil_iff]
          intro x hx
          rw [Path.same_congr_left (hplace x hx), hp]
          exact Bool.false_ne_true
        have hsame : (auxiliary s needed known p).2.without l = known.without l :=
          auxiliary_of_same hp
        rw [List.filter_cons_of_neg (by simp [hp]), auxiliaries_cons, ← hsame, hwithout, hboth,
          hnone]
        rfl
      | false =>
        have hall : first.without l = first := by
          rw [without, List.filter_eq_self]
          intro x hx
          rw [Path.same_congr_left (hplace x hx), hp]
          rfl
        rw [List.filter_cons_of_pos (by simp [hp]), auxiliaries_cons, auxiliaries_cons,
          auxiliary_of_not_same hp, hfirst, hwithout, hboth, hall, List.map_append]

theorem auxiliary_ne_nil {c : Corpus} (hc : s.load p = .ok c) (known : PathTable Block) :
    (auxiliary s needed known p).1.toList ≠ [] := by
  unfold auxiliary
  cases known.get? p with
  | some b => exact List.cons_ne_nil b []
  | none =>
    rw [hc]
    exact List.cons_ne_nil _ []

/-- Libraries with their blocks: those at some paths that can be loaded. -/
structure LibrariesOf (s : Surroundings) (needed : NeededSymbols) (paths : List Path)
    (found : PathTable Block) : Prop where
  symbols : SymbolsOf s needed found
  places : ∀ x ∈ found, ∃ p ∈ paths, x.1.same p = true
  complete : ∀ p ∈ paths, ∀ c, s.load p = .ok c → ∃ x ∈ found, x.1.same p = true

theorem auxiliaries_found (hknown : SymbolsOf s needed known) (paths : List Path) :
    ∃ found : PathTable Block, LibrariesOf s needed paths found ∧
      (auxiliaries s needed known paths).1 = found.map (·.2) ∧
      SymbolsOf s needed (auxiliaries s needed known paths).2 := by
  induction paths generalizing known with
  | nil =>
    refine ⟨[], ⟨?_, ?_, ?_⟩, rfl, hknown⟩
    all_goals
      intro x hx
      cases hx
  | cons p paths ih =>
    obtain ⟨first, hfirst, hsymbols, hplace, hnext⟩ := auxiliary_found hknown p
    obtain ⟨others, hothers, hrest, hlast⟩ := ih hnext
    refine ⟨first ++ others, ⟨hsymbols.append hothers.symbols, ?_, ?_⟩, ?_, hlast⟩
    · intro x hx
      rcases List.mem_append.1 hx with hx | hx
      · exact ⟨p, List.mem_cons_self .., hplace x hx⟩
      · obtain ⟨q, hq, hxq⟩ := hothers.places x hx
        exact ⟨q, List.mem_cons_of_mem p hq, hxq⟩
    · intro q hq c hc
      rcases List.mem_cons.1 hq with rfl | hq
      · have hne : first ≠ [] := fun h => auxiliary_ne_nil hc known (h ▸ hfirst)
        obtain ⟨x, hx⟩ := List.exists_mem_of_ne_nil first hne
        exact ⟨x, List.mem_append_left _ hx, hplace x hx⟩
      · obtain ⟨x, hx, hxq⟩ := hothers.complete q hq c hc
        exact ⟨x, List.mem_append_right _ hx, hxq⟩
    · rw [auxiliaries_cons, hfirst, hrest, List.map_append]

/-- A library of a main binary: the linker finds it, the binary needs it and it is there. -/
def RuntimeLibrary (s : Surroundings) (main : Corpus) (l : ResolvedLibrary) : Prop :=
  (∃ found, s.resolve main.path = .ok found ∧ l ∈ found) ∧ l.name ∈ main.needed ∧
    s.present l.path = true

theorem of_mem_auxiliaryPaths {config : Config} {t : PathTable Corpus} {main : Corpus}
    (hp : p ∈ auxiliaryPaths s config t main) :
    ∃ l, RuntimeLibrary s main l ∧ l.path = p ∧ t.has p = false := by
  unfold auxiliaryPaths at hp
  split at hp
  · split at hp
    · cases hp
    · next found hfound =>
      obtain ⟨l, hl, rfl⟩ := List.mem_map.1 (Path.mem_of_mem_distinct hp)
      obtain ⟨hmem, hkept⟩ := List.mem_filter.1 hl
      simp only [Bool.and_eq_true, Bool.not_eq_true', List.contains_iff_mem] at hkept
      obtain ⟨⟨hname, hpresent⟩, hnew⟩ := hkept
      exact ⟨l, ⟨⟨found, hfound, hmem⟩, hname, hpresent⟩, rfl, hnew⟩
  · cases hp

theorem exists_mem_auxiliaryPaths {config : Config} {t : PathTable Corpus} {main : Corpus}
    {l : ResolvedLibrary} (hresolve : config.resolveNeeded = true) (hl : RuntimeLibrary s main l)
    (hnew : t.has l.path = false) :
    ∃ p ∈ auxiliaryPaths s config t main, p.same l.path = true := by
  obtain ⟨⟨found, hfound, hmem⟩, hname, hpresent⟩ := hl
  unfold auxiliaryPaths
  rw [if_pos hresolve, hfound]
  refine Path.exists_mem_distinct (List.mem_map_of_mem (List.mem_filter.2 ⟨hmem, ?_⟩))
  simp [hname, hpresent, hnew]

theorem auxiliaryPaths_insert (s : Surroundings) (config : Config) {t₁ t₂ : PathTable Corpus}
    {x : Corpus} (main : Corpus) :
    auxiliaryPaths s config (t₁ ++ (l, x) :: t₂) main =
      (auxiliaryPaths s config (t₁ ++ t₂) main).filter fun p => !p.same l := by
  unfold auxiliaryPaths
  split
  · split
    · rfl
    · have hkeep (p q : Path) (h : p.parts = q.parts) : (!p.same l) = !q.same l :=
        congrArg Bool.not (Path.same_congr_left (Path.same_iff.2 h) l)
      rw [Path.distinct, Path.distinct, ← Path.distinctFrom_filter hkeep, List.filter_map,
        List.filter_filter]
      congr 2
      apply List.filter_congr
      intro y _
      simp only [has_insert, Bool.not_or, Function.comp_apply, Path.same_comm l]
      rw [← Bool.and_assoc, Bool.and_comm]
  · rfl

end Generator

end ElfFacts
