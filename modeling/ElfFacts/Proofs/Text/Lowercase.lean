import ElfFacts.Proofs.Text.Utf8
import ElfFacts.Text.Lowercase

/-!
# Lower case is stable

No letter that the case table leads to is led anywhere else by it. So a text in lower case stays as
it is when it is put into lower case again, whatever letters stood around a sigma.
-/
namespace ElfFacts.Text

/-- A character that lower case keeps. The two capitals are those with rules of their own. -/
structure IsLower (c : Char) : Prop where
  ne_capitalSigma : c ≠ capitalSigma
  ne_dottedCapitalI : c ≠ dottedCapitalI
  simpleLower : simpleLower c = c

instance (c : Char) : Decidable (IsLower c) :=
  decidable_of_iff (c ≠ capitalSigma ∧ c ≠ dottedCapitalI ∧ simpleLower c = c)
    ⟨fun ⟨h, h', h''⟩ => ⟨h, h', h''⟩, fun h => ⟨h.1, h.2, h.3⟩⟩

/-- What the first run leads to has no place in the second: the two lie apart, or the second takes
every other number and the first leads to numbers in between. A run has its first and last number,
its step and its target, in this order. -/
def apart (r q : Nat × Nat × Nat × Nat) : Bool :=
  Nat.blt (r.2.2.2 + (r.2.1 - r.1)) q.1 || Nat.blt q.2.1 r.2.2.2 ||
    (q.2.2.1 == 2 && (r.2.2.1 == 2 || r.1 == r.2.1) && (r.2.2.2 + q.1) % 2 == 1)

/-- The simple mapping of the capital that has a rule of its own, for which the table has no run. -/
def dottedRun : Nat × Nat × Nat × Nat := (0x130, 0x130, 1, 0x69)

/-- The capitals that have a lower case by addition. -/
def basicRun : Nat × Nat × Nat × Nat := (0x41, 0x5A, 1, 0x61)

theorem apart_lowercaseRuns :
    lowercaseRuns.all (fun r => (dottedRun :: lowercaseRuns).all (apart r)) = true := by
  -- More than thirty thousand pairs, so `apart` is a Boolean that the kernel computes.
  decide +kernel

theorem isValidChar_lowercaseRuns : ∀ r ∈ lowercaseRuns,
    r.2.2.2 + (r.2.1 - r.1) < 0xD800 ∨
      0xDFFF < r.2.2.2 ∧ r.2.2.2 + (r.2.1 - r.1) < 0x110000 := by
  decide +kernel

variable {r q : Nat × Nat × Nat × Nat} {n m : Nat}

theorem runTarget_eq_none (h : apart r q = true) (hm : runTarget n r = some m) :
    runTarget m q = none := by
  obtain ⟨first, last, step, target⟩ := r
  obtain ⟨first', last', step', target'⟩ := q
  simp only [runTarget] at hm ⊢
  split at hm
  · next hn =>
    obtain ⟨hfirst, hlast, hstep⟩ := hn
    obtain rfl := Option.some.inj hm
    refine if_neg ?_
    rintro ⟨hfirst', hlast', hstep'⟩
    simp only [apart, Nat.blt_eq, Bool.or_eq_true, Bool.and_eq_true, beq_iff_eq] at h
    rcases h with (h | h) | ⟨⟨htwo', htwo | hone⟩, hodd⟩
    · omega
    · omega
    · rw [htwo'] at hstep'
      rw [htwo] at hstep
      omega
    · rw [htwo'] at hstep'
      omega
  · cases hm

theorem toNat_ofNat_target (hr : r ∈ lowercaseRuns) (hm : runTarget n r = some m) :
    (Char.ofNat m).toNat = m := by
  have hvalid := isValidChar_lowercaseRuns r hr
  obtain ⟨first, last, step, target⟩ := r
  simp only [runTarget] at hm
  split at hm
  · next hn =>
    obtain rfl := Option.some.inj hm
    simp only at hvalid
    refine Utf8.toNat_ofNat ?_
    simp only [Nat.isValidChar]
    omega
  · cases hm

theorem simpleLower_eq_self {c : Char}
    (h : lowercaseRuns.findSome? (runTarget c.toNat) = none) : simpleLower c = c := by
  have hbasic : ∀ n < 0x80, runTarget n basicRun = none →
      (Char.ofNat n).toLower = Char.ofNat n := by decide
  unfold simpleLower
  split
  · next hc =>
    have hmem : basicRun ∈ lowercaseRuns := List.mem_cons_self ..
    have hlower := hbasic c.toNat hc (List.findSome?_eq_none_iff.1 h basicRun hmem)
    rwa [Char.ofNat_toNat] at hlower
  · rw [h, Option.map_none, Option.getD_none]

theorem isLower_of_unmapped {c : Char} (h : lowercaseRuns.findSome? (runTarget c.toNat) = none)
    (hc : c ≠ dottedCapitalI) : IsLower c where
  ne_capitalSigma := by
    rintro rfl
    have hsigma : lowercaseRuns.findSome? (runTarget capitalSigma.toNat) ≠ none := by
      decide +kernel
    exact hsigma h
  ne_dottedCapitalI := hc
  simpleLower := simpleLower_eq_self h

theorem isLower_target (hr : r ∈ lowercaseRuns) (hm : runTarget n r = some m) :
    IsLower (Char.ofNat m) := by
  have hnat := toNat_ofNat_target hr hm
  have hnone : ∀ q ∈ dottedRun :: lowercaseRuns, runTarget m q = none := by
    intro q hq
    have hall := List.all_eq_true.1 (List.all_eq_true.1 apart_lowercaseRuns r hr) q hq
    exact runTarget_eq_none hall hm
  refine isLower_of_unmapped ?_ fun hdotted => ?_
  · rw [hnat, List.findSome?_eq_none_iff]
    exact fun q hq => hnone q (List.mem_cons_of_mem _ hq)
  · have hdot := hnone dottedRun (List.mem_cons_self ..)
    rw [← hnat, hdotted] at hdot
    exact absurd hdot (by decide)

theorem isLower_simpleLower {c : Char} (hc : c ≠ dottedCapitalI) : IsLower (simpleLower c) := by
  cases hfind : lowercaseRuns.findSome? (runTarget c.toNat) with
  | none =>
    rw [simpleLower_eq_self hfind]
    exact isLower_of_unmapped hfind hc
  | some m =>
    unfold simpleLower
    split
    · next hbasic =>
      have hlower : ∀ n < 0x80, IsLower (Char.ofNat n).toLower := by decide
      have hc := hlower c.toNat hbasic
      rwa [Char.ofNat_toNat] at hc
    · obtain ⟨r, hr, hm⟩ := List.exists_of_findSome?_eq_some hfind
      rw [hfind, Option.map_some, Option.getD_some]
      exact isLower_target hr hm

theorem isLower_of_mem_lowerAt {before after : List Char} {c d : Char}
    (h : d ∈ lowerAt before c after) : IsLower d := by
  unfold lowerAt at h
  split at h
  · split at h
    · rw [List.mem_singleton.1 h]
      decide +kernel
    · rw [List.mem_singleton.1 h]
      decide +kernel
  · split at h
    · rcases List.mem_pair.1 h with rfl | rfl
      · decide +kernel
      · decide +kernel
    · next hdotted =>
      rw [List.mem_singleton.1 h]
      exact isLower_simpleLower hdotted

theorem isLower_of_mem_lowerFrom {before cs : List Char} {d : Char} (h : d ∈ lowerFrom before cs) :
    IsLower d := by
  induction cs generalizing before with
  | nil => cases h
  | cons c after ih =>
    rcases List.mem_append.1 h with h | h
    · exact isLower_of_mem_lowerAt h
    · exact ih h

theorem lowerFrom_eq_self {cs : List Char} (h : ∀ c ∈ cs, IsLower c) (before : List Char) :
    lowerFrom before cs = cs := by
  induction cs generalizing before with
  | nil => rfl
  | cons c after ih =>
    have hc := h c (List.mem_cons_self ..)
    have hself : lowerAt before c after = [c] := by
      rw [lowerAt, if_neg hc.ne_capitalSigma, if_neg hc.ne_dottedCapitalI, hc.simpleLower]
    rw [lowerFrom, hself, ih fun d hd => h d (List.mem_cons_of_mem c hd)]
    rfl

theorem lowerChars_eq_self {cs : List Char} (h : ∀ c ∈ cs, IsLower c) : lowerChars cs = cs :=
  lowerFrom_eq_self h []

end ElfFacts.Text
