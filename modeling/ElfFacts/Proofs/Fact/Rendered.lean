import ElfFacts.Fact
import ElfFacts.Proofs.Text.Quoted

/-!
# A rendered fact can be read back

Text arguments stand in quotes and numbers contain neither a comma nor a bracket, so every argument
shows where it ends. A rendered fact therefore stands for one fact, and it is one line.
-/
namespace ElfFacts

namespace Argument

theorem escaped_escape (c : Char) : Text.Escaped c (escape c) := by
  unfold escape
  split
  · next h => exact .letter '"' (by rw [h]; rfl) (by decide) (by decide)
  · next hquote =>
    split
    · next h => exact .letter '\\' (by rw [h]; rfl) (by decide) (by decide)
    · next hbackslash =>
      split
      · next h => exact .letter 'n' (by rw [h]; rfl) (by decide) (by decide)
      · next hline => exact .itself hbackslash hquote hline

theorem newline_notMem_chars (a : Argument) : '\n' ∉ a.chars := by
  cases a with
  | text s => exact Text.Escaped.newline_notMem_quoted escaped_escape _
  | number n => exact Text.notMem_toString (by decide) n

def IsEnd (c : Char) : Prop := c = ',' ∨ c = ')'

theorem IsEnd.notMem_number {c : Char} (h : IsEnd c) (n : Int) : c ∉ (number n).chars := by
  rcases h with rfl | rfl
  · exact Text.notMem_toString (by decide) n
  · exact Text.notMem_toString (by decide) n

theorem number_append_ne {n : Int} {s : String} {r r' : List Char} (hr : ∀ c ∈ r.head?, IsEnd c) :
    (number n).chars ++ r ≠ (text s).chars ++ r' := by
  have hquote : '"' ∉ (number n).chars := Text.notMem_toString (by decide) n
  intro h
  cases hn : (number n).chars with
  | nil =>
    rw [hn] at h
    have hend : IsEnd '"' := hr '"' (by rw [show r = _ from h]; rfl)
    exact absurd hend (by simp [IsEnd])
  | cons c cs =>
    rw [hn] at h hquote
    have hc : c = '"' := (List.cons_eq_cons.1 h).1
    exact hquote (hc ▸ List.mem_cons_self ..)

theorem chars_append_inj {a b : Argument} {r r' : List Char} (hr : ∀ c ∈ r.head?, IsEnd c)
    (hr' : ∀ c ∈ r'.head?, IsEnd c) (h : a.chars ++ r = b.chars ++ r') : a = b ∧ r = r' := by
  cases a with
  | text s =>
    cases b with
    | text t =>
      obtain ⟨hst, hrest⟩ := Text.Escaped.quoted_append_inj escaped_escape h
      exact ⟨congrArg text (String.toList_inj.1 hst), hrest⟩
    | number n => exact absurd h.symm (number_append_ne hr')
  | number m =>
    cases b with
    | text t => exact absurd h (number_append_ne hr)
    | number n =>
      obtain ⟨hmn, hrest⟩ := Text.append_inj_of_head (P := IsEnd)
        (fun c hc hend => hend.notMem_number m hc) (fun c hc hend => hend.notMem_number n hc) hr hr' h
      exact ⟨congrArg number (Int.repr_injective (String.toList_inj.1 hmn)), hrest⟩

def tailChars (rest : List Argument) : List Char := rest.flatMap (fun a => ',' :: a.chars) ++ [')']

theorem isEnd_head?_tailChars (rest : List Argument) (r : List Char) :
    ∀ c ∈ (tailChars rest ++ r).head?, IsEnd c := by
  intro c hc
  cases rest with
  | nil => exact .inr (Option.some.inj hc).symm
  | cons a rest => exact .inl (Option.some.inj hc).symm

theorem tailChars_append_inj {rest rest' : List Argument} {r r' : List Char}
    (h : tailChars rest ++ r = tailChars rest' ++ r') : rest = rest' ∧ r = r' := by
  induction rest generalizing rest' with
  | nil =>
    cases rest' with
    | nil => exact ⟨rfl, (List.cons_eq_cons.1 h).2⟩
    | cons b rest' => exact absurd (List.cons_eq_cons.1 h).1 (by decide)
  | cons a rest ih =>
    cases rest' with
    | nil => exact absurd (List.cons_eq_cons.1 h).1 (by decide)
    | cons b rest' =>
      have hsplit (d : Argument) (l : List Argument) (s : List Char) :
          tailChars (d :: l) ++ s = ',' :: (d.chars ++ (tailChars l ++ s)) := by
        simp [tailChars]
      rw [hsplit, hsplit, List.cons_inj_right] at h
      obtain ⟨rfl, htail⟩ :=
        chars_append_inj (isEnd_head?_tailChars rest r) (isEnd_head?_tailChars rest' r') h
      obtain ⟨rfl, hrest⟩ := ih htail
      exact ⟨rfl, hrest⟩

end Argument

namespace Fact

theorem commaSeparated_cons (a : Argument) (rest : List Argument) :
    commaSeparated ((a :: rest).map Argument.chars) ++ [')'] =
      a.chars ++ Argument.tailChars rest := by
  induction rest generalizing a with
  | nil => rfl
  | cons b rest ih =>
    have hstep : commaSeparated ((a :: b :: rest).map Argument.chars) ++ [')'] =
        a.chars ++ ',' :: (commaSeparated ((b :: rest).map Argument.chars) ++ [')']) := by
      simp [commaSeparated]
    rw [hstep, ih]
    simp [Argument.tailChars]

theorem chars_of_arguments_cons {f : Fact} {a : Argument} {rest : List Argument}
    (h : f.arguments = a :: rest) :
    f.chars = f.predicate.toList ++ '(' :: (a.chars ++ (Argument.tailChars rest ++ ['.'])) := by
  rw [chars, h, if_neg (List.cons_ne_nil a rest), commaSeparated_cons]
  simp

theorem mem_chars {f : Fact} {c : Char} (h : c ∈ f.chars) :
    c ∈ f.predicate.toList ∨ (∃ a ∈ f.arguments, c ∈ a.chars) ∨ c ∈ "(,).".toList := by
  cases hf : f.arguments with
  | nil =>
    rw [f.chars_of_arguments_nil hf] at h
    rcases List.mem_append.1 h with h | h
    · exact .inl h
    · rw [List.mem_singleton.1 h]
      exact .inr (.inr (by decide))
  | cons a rest =>
    rw [chars_of_arguments_cons hf] at h
    simp only [Argument.tailChars, List.mem_append, List.mem_cons, List.mem_flatMap,
      List.not_mem_nil, or_false] at h
    rcases h with h | rfl | h | (⟨b, hb, rfl | h⟩ | rfl) | rfl
    · exact .inl h
    · exact .inr (.inr (by decide))
    · exact .inr (.inl ⟨a, List.mem_cons_self .., h⟩)
    · exact .inr (.inr (by decide))
    · exact .inr (.inl ⟨b, List.mem_cons_of_mem a hb, h⟩)
    · exact .inr (.inr (by decide))
    · exact .inr (.inr (by decide))

theorem newline_notMem_render {f : Fact} (h : '\n' ∉ f.predicate.toList) :
    '\n' ∉ f.render.toList := by
  rw [render, String.toList_ofList]
  intro hm
  rcases mem_chars hm with hm | ⟨a, -, hm⟩ | hm
  · exact h hm
  · exact a.newline_notMem_chars hm
  · exact absurd hm (by decide)

theorem chars_inj {f g : Fact} (hf : '(' ∉ f.predicate.toList) (hg : '(' ∉ g.predicate.toList)
    (h : f.chars = g.chars) : f = g := by
  obtain ⟨p, as⟩ := f
  obtain ⟨q, bs⟩ := g
  have hbracket {t : String} (ht : '(' ∉ t.toList) : '(' ∉ (⟨t, []⟩ : Fact).chars := by
    rw [chars_of_arguments_nil _ rfl]
    simp [ht]
  cases as with
  | nil =>
    cases bs with
    | nil =>
      rw [chars_of_arguments_nil _ rfl, chars_of_arguments_nil _ rfl, List.append_left_inj] at h
      have hpq : p = q := String.toList_inj.1 h
      rw [hpq]
    | cons b bs =>
      have hno := hbracket hf
      rw [h, chars_of_arguments_cons rfl] at hno
      exact absurd (List.mem_append_right _ (List.mem_cons_self ..)) hno
  | cons a as =>
    cases bs with
    | nil =>
      have hno := hbracket hg
      rw [← h, chars_of_arguments_cons rfl] at hno
      exact absurd (List.mem_append_right _ (List.mem_cons_self ..)) hno
    | cons b bs =>
      rw [chars_of_arguments_cons rfl, chars_of_arguments_cons rfl] at h
      obtain ⟨hfront, hargs⟩ := Text.append_cons_inj hf hg h
      obtain ⟨rfl, htail⟩ := Argument.chars_append_inj (Argument.isEnd_head?_tailChars as ['.'])
        (Argument.isEnd_head?_tailChars bs ['.']) hargs
      obtain ⟨rfl, -⟩ := Argument.tailChars_append_inj htail
      have hpq : p = q := String.toList_inj.1 hfront
      rw [hpq]

/-- Whatever the arguments are, a fact is rendered as one line, and no other fact as the same. -/
theorem render_unambiguous {f g : Fact}
    (hf : '(' ∉ f.predicate.toList ∧ '\n' ∉ f.predicate.toList)
    (hg : '(' ∉ g.predicate.toList ∧ '\n' ∉ g.predicate.toList) :
    '\n' ∉ f.render.toList ∧ '\n' ∉ g.render.toList ∧ (f.render = g.render ↔ f = g) := by
  refine ⟨newline_notMem_render hf.2, newline_notMem_render hg.2, fun h => ?_, fun h => h ▸ rfl⟩
  rw [render, render, String.ofList_inj] at h
  exact chars_inj hf.1 hg.1 h

/-- The text of one argument looks like two arguments, and a text like a number. -/
theorem render_unambiguous_delimiters :
    '\n' ∉ (Fact.render ⟨"p", [.text "a\",\"b\n\\", .number (-1)]⟩).toList ∧
      Fact.render ⟨"p", [.text "a\",\"b\n\\", .number (-1)]⟩ ≠
        Fact.render ⟨"p", [.text "a", .text "b\n\\", .text "-1"]⟩ := by
  obtain ⟨hline, -, hinj⟩ := render_unambiguous
    (f := ⟨"p", [.text "a\",\"b\n\\", .number (-1)]⟩)
    (g := ⟨"p", [.text "a", .text "b\n\\", .text "-1"]⟩) (by decide) (by decide)
  exact ⟨hline, fun h => absurd (hinj.1 h) (by decide)⟩

end Fact

end ElfFacts
