import Mathlib.Data.List.Basic

/-!
# Splitting at a separator

A text that was put together with separators comes apart in one way only, if what stands before the
first separator, or behind the last, does not contain it.
-/
namespace ElfFacts.Text

variable {α : Type} {sep : α} {a b r r' : List α}

/-- Nothing follows, or a separator does. -/
def Stops (sep : α) (r : List α) : Prop := ∀ c ∈ r.head?, c = sep

theorem stops_nil (sep : α) : Stops sep [] := by
  intro c hc
  cases hc

theorem stops_cons (sep : α) (r : List α) : Stops sep (sep :: r) := by
  intro c hc
  exact (Option.some.inj hc).symm

/-- Texts without separators that nothing or a separator follows; there can be several separators. -/
theorem append_inj_of_head {P : α → Prop} (ha : ∀ c ∈ a, ¬ P c) (hb : ∀ c ∈ b, ¬ P c)
    (hr : ∀ c ∈ r.head?, P c) (hr' : ∀ c ∈ r'.head?, P c) (h : a ++ r = b ++ r') :
    a = b ∧ r = r' := by
  induction a generalizing b with
  | nil =>
    cases b with
    | nil => exact ⟨rfl, h⟩
    | cons d b =>
      have hsplit : r = d :: (b ++ r') := h
      have hd : P d := hr d (by rw [hsplit, List.head?_cons]; rfl)
      exact absurd hd (hb d (List.mem_cons_self ..))
  | cons c a ih =>
    cases b with
    | nil =>
      have hsplit : c :: (a ++ r) = r' := h
      have hc : P c := hr' c (by rw [← hsplit, List.head?_cons]; rfl)
      exact absurd hc (ha c (List.mem_cons_self ..))
    | cons d b =>
      obtain ⟨rfl, htail⟩ := List.cons_eq_cons.1 h
      obtain ⟨rfl, hrest⟩ := ih (fun x hx => ha x (List.mem_cons_of_mem c hx))
        (fun x hx => hb x (List.mem_cons_of_mem c hx)) htail
      exact ⟨rfl, hrest⟩

theorem append_inj_of_stops (ha : sep ∉ a) (hb : sep ∉ b) (hr : Stops sep r) (hr' : Stops sep r')
    (h : a ++ r = b ++ r') : a = b ∧ r = r' :=
  append_inj_of_head (P := (· = sep)) (fun _ hc he => ha (Eq.subst he hc))
    (fun _ hc he => hb (Eq.subst he hc)) hr hr' h

theorem append_cons_inj (ha : sep ∉ a) (hb : sep ∉ b) (h : a ++ sep :: r = b ++ sep :: r') :
    a = b ∧ r = r' := by
  obtain ⟨hfront, hback⟩ := append_inj_of_stops ha hb (stops_cons sep r) (stops_cons sep r') h
  exact ⟨hfront, List.cons_inj_right sep |>.1 hback⟩

theorem append_cons_inj_last (hr : sep ∉ r) (hr' : sep ∉ r') (h : a ++ sep :: r = b ++ sep :: r') :
    a = b ∧ r = r' := by
  have hreverse := congrArg List.reverse h
  simp only [List.reverse_append, List.reverse_cons, List.append_assoc, List.singleton_append]
    at hreverse
  obtain ⟨hback, hfront⟩ := append_cons_inj (mt List.mem_reverse.1 hr) (mt List.mem_reverse.1 hr')
    hreverse
  exact ⟨List.reverse_inj.1 hfront, List.reverse_inj.1 hback⟩

theorem exists_last_split (h : sep ∈ a) : ∃ front back, a = front ++ sep :: back ∧ sep ∉ back := by
  obtain ⟨back, front, hsplit, hback⟩ := List.eq_append_cons_of_mem (List.mem_reverse.2 h)
  refine ⟨front.reverse, back.reverse, ?_, mt List.mem_reverse.1 hback⟩
  rw [← List.reverse_reverse a, hsplit]
  simp

theorem stops_flatMap (lines : List (List α)) : Stops sep (lines.flatMap (sep :: ·)) := by
  cases lines with
  | nil => exact stops_nil sep
  | cons line lines => exact stops_cons sep _

theorem flatMap_cons_inj {lines lines' : List (List α)} (hl : ∀ line ∈ lines, sep ∉ line)
    (hl' : ∀ line ∈ lines', sep ∉ line)
    (h : lines.flatMap (sep :: ·) = lines'.flatMap (sep :: ·)) : lines = lines' := by
  induction lines generalizing lines' with
  | nil =>
    cases lines' with
    | nil => rfl
    | cons line lines' => cases h
  | cons line lines ih =>
    cases lines' with
    | nil => cases h
    | cons line' lines' =>
      rw [List.flatMap_cons, List.flatMap_cons, List.cons_append, List.cons_append,
        List.cons_inj_right] at h
      obtain ⟨rfl, hrest⟩ := append_inj_of_stops (hl line (List.mem_cons_self ..))
        (hl' line' (List.mem_cons_self ..)) (stops_flatMap lines) (stops_flatMap lines') h
      rw [ih (fun l hm => hl l (List.mem_cons_of_mem line hm))
        (fun l hm => hl' l (List.mem_cons_of_mem line hm)) hrest]

end ElfFacts.Text
