import ElfFacts.Path
import Mathlib.Data.List.Basic

/-!
# Distinct paths

Removing repeated paths keeps a path of every place, and never two. A path of a new place goes where
it stands and leaves the others alone, and leaving out places can be done before or after.
-/
namespace ElfFacts.Path

variable {paths : List Path} {seen : List (List Part)} {l p q : Path}

theorem same_iff : p.same q = true ↔ p.parts = q.parts := by
  rw [same, decide_eq_true_eq]

theorem same_refl (p : Path) : p.same p = true := same_iff.2 rfl

theorem same_comm (p q : Path) : p.same q = q.same p := by
  rw [Bool.eq_iff_iff, same_iff, same_iff, eq_comm]

theorem same_congr_left (h : p.same q = true) (r : Path) : p.same r = q.same r := by
  rw [Bool.eq_iff_iff, same_iff, same_iff, same_iff.1 h]

theorem distinctFrom_cons_of_mem (h : p.parts ∈ seen) :
    distinctFrom seen (p :: paths) = distinctFrom seen paths := if_pos h

theorem distinctFrom_cons_of_notMem (h : p.parts ∉ seen) :
    distinctFrom seen (p :: paths) = p :: distinctFrom (p.parts :: seen) paths := if_neg h

theorem distinctFrom_congr {seen' : List (List Part)}
    (h : ∀ p ∈ paths, p.parts ∈ seen ↔ p.parts ∈ seen') :
    distinctFrom seen paths = distinctFrom seen' paths := by
  induction paths generalizing seen seen' with
  | nil => rfl
  | cons p paths ih =>
    have hp := h p (List.mem_cons_self ..)
    have hrest : ∀ q ∈ paths, q.parts ∈ seen ↔ q.parts ∈ seen' :=
      fun q hq => h q (List.mem_cons_of_mem p hq)
    by_cases hs : p.parts ∈ seen
    · rw [distinctFrom_cons_of_mem hs, distinctFrom_cons_of_mem (hp.1 hs), ih hrest]
    · rw [distinctFrom_cons_of_notMem hs, distinctFrom_cons_of_notMem (mt hp.2 hs)]
      congr 1
      apply ih
      intro q hq
      rw [List.mem_cons, List.mem_cons, hrest q hq]

theorem distinctFrom_cons_seen {x : List Part} (h : ∀ p ∈ paths, p.parts ≠ x) :
    distinctFrom (x :: seen) paths = distinctFrom seen paths := by
  apply distinctFrom_congr
  intro p hp
  rw [List.mem_cons, or_iff_right (h p hp)]

theorem mem_distinctFrom (h : p ∈ distinctFrom seen paths) : p ∈ paths ∧ p.parts ∉ seen := by
  induction paths generalizing seen with
  | nil => cases h
  | cons q paths ih =>
    by_cases hs : q.parts ∈ seen
    · rw [distinctFrom_cons_of_mem hs] at h
      exact ⟨List.mem_cons_of_mem q (ih h).1, (ih h).2⟩
    · rw [distinctFrom_cons_of_notMem hs] at h
      rcases List.mem_cons.1 h with rfl | h
      · exact ⟨List.mem_cons_self .., hs⟩
      · have hp := ih h
        exact ⟨List.mem_cons_of_mem q hp.1, fun hm => hp.2 (List.mem_cons_of_mem _ hm)⟩

theorem exists_mem_distinctFrom (hp : p ∈ paths) (hs : p.parts ∉ seen) :
    ∃ q ∈ distinctFrom seen paths, q.parts = p.parts := by
  induction paths generalizing seen with
  | nil => cases hp
  | cons r paths ih =>
    by_cases hr : r.parts ∈ seen
    · rw [distinctFrom_cons_of_mem hr]
      rcases List.mem_cons.1 hp with rfl | hp
      · exact absurd hr hs
      · exact ih hp hs
    · rw [distinctFrom_cons_of_notMem hr]
      by_cases he : r.parts = p.parts
      · exact ⟨r, List.mem_cons_self .., he⟩
      · have hp' : p ∈ paths := (List.mem_cons.1 hp).resolve_left fun h => he (h ▸ rfl)
        have hs' : p.parts ∉ r.parts :: seen := by
          rw [List.mem_cons, not_or]
          exact ⟨fun h => he h.symm, hs⟩
        obtain ⟨q, hq, hqp⟩ := ih hp' hs'
        exact ⟨q, List.mem_cons_of_mem r hq, hqp⟩

theorem pairwise_distinctFrom (seen : List (List Part)) (paths : List Path) :
    (distinctFrom seen paths).Pairwise fun p q => p.parts ≠ q.parts := by
  induction paths generalizing seen with
  | nil => exact List.Pairwise.nil
  | cons p paths ih =>
    by_cases hs : p.parts ∈ seen
    · rw [distinctFrom_cons_of_mem hs]
      exact ih seen
    · rw [distinctFrom_cons_of_notMem hs, List.pairwise_cons]
      refine ⟨fun q hq he => ?_, ih _⟩
      exact (mem_distinctFrom hq).2 (he ▸ List.mem_cons_self ..)

theorem distinctFrom_insert {before after : List Path} (hs : l.parts ∉ seen)
    (hl : ∀ p ∈ before ++ after, p.parts ≠ l.parts) :
    ∃ front back, distinctFrom seen (before ++ after) = front ++ back ∧
      distinctFrom seen (before ++ l :: after) = front ++ l :: back := by
  induction before generalizing seen with
  | nil =>
    have hafter : ∀ p ∈ after, p.parts ≠ l.parts := hl
    refine ⟨[], distinctFrom seen after, rfl, ?_⟩
    rw [List.nil_append, distinctFrom_cons_of_notMem hs, distinctFrom_cons_seen hafter]
    rfl
  | cons p before ih =>
    have hrest : ∀ q ∈ before ++ after, q.parts ≠ l.parts :=
      fun q hq => hl q (List.mem_cons_of_mem p hq)
    rw [List.cons_append, List.cons_append]
    by_cases hp : p.parts ∈ seen
    · rw [distinctFrom_cons_of_mem hp, distinctFrom_cons_of_mem hp]
      exact ih hs hrest
    · have hs' : l.parts ∉ p.parts :: seen := by
        rw [List.mem_cons, not_or]
        exact ⟨(hl p (List.mem_cons_self ..)).symm, hs⟩
      obtain ⟨front, back, hold, hnew⟩ := ih hs' hrest
      refine ⟨p :: front, back, ?_, ?_⟩
      · rw [distinctFrom_cons_of_notMem hp, hold, List.cons_append]
      · rw [distinctFrom_cons_of_notMem hp, hnew, List.cons_append]

theorem distinctFrom_filter {keep : Path → Bool}
    (hkeep : ∀ p q, p.parts = q.parts → keep p = keep q) (seen : List (List Part))
    (paths : List Path) :
    distinctFrom seen (paths.filter keep) = (distinctFrom seen paths).filter keep := by
  induction paths generalizing seen with
  | nil => rfl
  | cons p paths ih =>
    by_cases hs : p.parts ∈ seen
    · by_cases hp : keep p = true
      · rw [List.filter_cons_of_pos hp, distinctFrom_cons_of_mem hs, distinctFrom_cons_of_mem hs, ih]
      · rw [List.filter_cons_of_neg hp, distinctFrom_cons_of_mem hs, ih]
    · by_cases hp : keep p = true
      · rw [List.filter_cons_of_pos hp, distinctFrom_cons_of_notMem hs,
          distinctFrom_cons_of_notMem hs, List.filter_cons_of_pos hp, ih]
      · have hne : ∀ q ∈ paths.filter keep, q.parts ≠ p.parts :=
          fun q hq he => hp (hkeep q p he ▸ (List.mem_filter.1 hq).2)
        rw [List.filter_cons_of_neg hp, distinctFrom_cons_of_notMem hs, List.filter_cons_of_neg hp,
          ← ih, distinctFrom_cons_seen hne]

theorem mem_of_mem_distinct (h : p ∈ distinct paths) : p ∈ paths := (mem_distinctFrom h).1

theorem exists_mem_distinct (h : p ∈ paths) : ∃ q ∈ distinct paths, q.same p = true := by
  obtain ⟨q, hq, hqp⟩ := exists_mem_distinctFrom h (List.not_mem_nil)
  exact ⟨q, hq, same_iff.2 hqp⟩

theorem distinctFrom_append (seen : List (List Part)) (before after : List Path) :
    distinctFrom seen (before ++ after) =
      distinctFrom seen before ++ distinctFrom (before.map parts ++ seen) after := by
  induction before generalizing seen with
  | nil => rfl
  | cons p before ih =>
    rw [List.cons_append]
    by_cases hs : p.parts ∈ seen
    · rw [distinctFrom_cons_of_mem hs, distinctFrom_cons_of_mem hs, ih]
      refine congrArg _ (distinctFrom_congr fun q _ => ?_)
      simp only [List.map_cons, List.cons_append, List.mem_cons]
      refine ⟨Or.inr, ?_⟩
      rintro (hq | hq)
      · exact hq ▸ List.mem_append_right _ hs
      · exact hq
    · rw [distinctFrom_cons_of_notMem hs, distinctFrom_cons_of_notMem hs, ih]
      refine congrArg (p :: distinctFrom _ before ++ ·) (distinctFrom_congr fun q _ => ?_)
      simp only [List.map_cons, List.cons_append, List.mem_cons, List.mem_append]
      exact or_left_comm

theorem distinctFrom_eq_filter (seen : List (List Part)) (paths : List Path) :
    distinctFrom seen paths = (distinct paths).filter fun p => p.parts ∉ seen := by
  have hkeep : ∀ p q : Path, p.parts = q.parts →
      decide (p.parts ∉ seen) = decide (q.parts ∉ seen) := fun p q h => by rw [h]
  have hall : ∀ p ∈ distinctFrom seen paths, decide (p.parts ∉ seen) = true :=
    fun p hp => decide_eq_true (mem_distinctFrom hp).2
  calc distinctFrom seen paths
      = distinctFrom seen (paths.filter fun p => p.parts ∉ seen) := by
        rw [distinctFrom_filter hkeep, List.filter_eq_self.2 hall]
    _ = distinct (paths.filter fun p => p.parts ∉ seen) := by
        refine distinctFrom_congr fun p hp => ?_
        simpa using (List.mem_filter.1 hp).2
    _ = (distinct paths).filter fun p => p.parts ∉ seen := distinctFrom_filter hkeep [] paths

theorem distinct_append (before after : List Path) :
    distinct (before ++ after) =
      distinct before ++ (distinct after).filter fun p => !before.any p.same := by
  rw [distinct, distinctFrom_append, ← distinct, distinctFrom_eq_filter]
  refine congrArg _ (List.filter_congr fun p _ => ?_)
  have hseen : p.parts ∈ before.map parts ++ [] ↔ before.any p.same = true := by
    simp only [List.append_nil, List.mem_map, List.any_eq_true, same_iff, eq_comm (b := p.parts)]
  simp only [hseen, Bool.not_eq_true, Bool.decide_eq_false]

theorem distinct_cons (p : Path) (paths : List Path) :
    distinct (p :: paths) = p :: distinct (paths.filter fun q => q.same p = false) := by
  have hkeep : ∀ q r : Path, q.parts = r.parts →
      decide (q.same p = false) = decide (r.same p = false) :=
    fun q r h => by rw [same_congr_left (same_iff.2 h)]
  rw [← List.singleton_append, distinct_append, distinct, distinct, distinct,
    distinctFrom_filter hkeep]
  refine congrArg (p :: ·) (List.filter_congr fun q _ => ?_)
  simp

theorem distinct_eq_eraseDupsBy : ∀ paths : List Path, distinct paths = paths.eraseDupsBy same
  | [] => rfl
  | p :: paths => by
    have := List.length_filter_le (fun q : Path => !q.same p) paths
    rw [distinct_cons, List.eraseDupsBy_cons, distinct_eq_eraseDupsBy (paths.filter _)]
termination_by paths => paths.length

end ElfFacts.Path
