import ElfFacts.Proofs.Text.Lowercase
import ElfFacts.Walk.Tag

/-!
# Normalized tags

Replacing leaves no occurrence of what is replaced if the new text can neither hold one nor be part
of one. So a normalized tag is in lower case and names no subprogram, and a tag that is so already
stays as it is.
-/
namespace ElfFacts.Tag

/-- No occurrence of the old text can reach into the new one: it would have to begin or end in it,
or lie in it. -/
structure Isolated (old new : List Char) : Prop where
  ne_nil : new ≠ []
  length_le : new.length ≤ old.length
  head_notMem : ∀ c ∈ new.head?, c ∉ old
  last_notMem : ∀ c ∈ new.getLast?, c ∉ old

variable {old new cs w : List Char} {fuel : Nat}

theorem Isolated.old_ne_nil (h : Isolated old new) : old ≠ [] := by
  rintro rfl
  exact h.ne_nil (List.length_eq_zero_iff.1 (Nat.le_zero.1 h.length_le))

theorem Isolated.isPrefix_of_isPrefix_replaceFrom (h : Isolated old new) (hw : ∀ c ∈ w, c ∈ old)
    (hp : w <+: replaceFrom old new fuel cs) : w <+: cs := by
  fun_induction replaceFrom old new fuel cs generalizing w with
  | case1 cs => exact hp
  | case2 fuel => exact hp
  | case3 fuel c r hfound ih =>
    cases w with
    | nil => exact List.nil_prefix
    | cons d w =>
      obtain ⟨f, rest, hnew⟩ := List.exists_cons_of_ne_nil h.ne_nil
      rw [hnew, List.cons_append, List.cons_prefix_cons] at hp
      obtain ⟨rfl, -⟩ := hp
      have hhead : new.head? = some d := by rw [hnew, List.head?_cons]
      exact absurd (hw d (List.mem_cons_self ..)) (h.head_notMem d hhead)
  | case4 fuel c r hfound ih =>
    cases w with
    | nil => exact List.nil_prefix
    | cons d w =>
      rw [List.cons_prefix_cons] at hp ⊢
      exact ⟨hp.1, ih (fun x hx => hw x (List.mem_cons_of_mem d hx)) hp.2⟩

/-- An occurrence does not begin in the new text. -/
theorem Isolated.isInfix_of_append (h : Isolated old new) {rest : List Char}
    (ho : old <:+: new ++ rest) : old <:+: rest := by
  suffices hsuffix : ∀ s, s <:+ new → old <:+: s ++ rest → old <:+: rest from
    hsuffix new List.suffix_rfl ho
  intro s
  induction s with
  | nil => exact fun _ ho => ho
  | cons c s ih =>
    intro hs ho
    rw [List.cons_append, List.infix_cons_iff] at ho
    rcases ho with ho | ho
    · -- The occurrence is at least as long as the new text, so it would hold the end of that.
      have hlength : (c :: s).length ≤ old.length := Nat.le_trans hs.length_le h.length_le
      have hin : c :: s <+: old :=
        List.prefix_of_prefix_length_le (List.prefix_append (c :: s) rest) ho hlength
      have hne : c :: s ≠ [] := List.cons_ne_nil c s
      obtain ⟨front, hfront⟩ := hs
      have hlast : new.getLast? = some ((c :: s).getLast hne) := by
        rw [← hfront, List.getLast?_append, List.getLast?_eq_some_getLast hne]
        rfl
      exact absurd (hin.subset (List.getLast_mem hne)) (h.last_notMem _ hlast)
    · exact ih ((List.suffix_cons c s).trans hs) ho

/-- No occurrence is left when the fuel lasts for the whole text. -/
theorem Isolated.not_isInfix_replaceFrom (h : Isolated old new) (hfuel : cs.length ≤ fuel) :
    ¬ old <:+: replaceFrom old new fuel cs := by
  fun_induction replaceFrom old new fuel cs with
  | case1 cs =>
    intro ho
    rw [List.length_eq_zero_iff.1 (Nat.le_zero.1 hfuel), List.infix_nil] at ho
    exact h.old_ne_nil ho
  | case2 fuel => exact fun ho => h.old_ne_nil (List.infix_nil.1 ho)
  | case3 fuel c r hfound ih =>
    have hpos : 0 < old.length := List.length_pos_iff.2 h.old_ne_nil
    rw [List.length_cons] at hfuel
    have hrest : ((c :: r).drop old.length).length ≤ fuel := by
      rw [List.length_drop, List.length_cons]
      omega
    exact fun ho => ih hrest (h.isInfix_of_append ho)
  | case4 fuel c r hfound ih =>
    intro ho
    rcases List.infix_cons_iff.1 ho with ho | ho
    · have hunfold : replaceFrom old new (fuel + 1) (c :: r) = c :: replaceFrom old new fuel r := by
        rw [replaceFrom, if_neg hfound]
      rw [← hunfold] at ho
      have hbefore := h.isPrefix_of_isPrefix_replaceFrom (fun c hc => hc) ho
      exact hfound (List.isPrefixOf_iff_prefix.2 hbefore)
    · exact ih (Nat.le_of_succ_le_succ hfuel) ho

theorem replaceFrom_eq_self (h : ¬ old <:+: cs) : replaceFrom old new fuel cs = cs := by
  fun_induction replaceFrom old new fuel cs with
  | case1 cs => rfl
  | case2 fuel => rfl
  | case3 fuel c r hfound ih => exact absurd (List.isPrefixOf_iff_prefix.1 hfound).isInfix h
  | case4 fuel c r hfound ih => rw [ih fun ho => h (List.infix_cons ho)]

theorem mem_of_mem_replaceFrom {c : Char} (hc : c ∈ replaceFrom old new fuel cs) :
    c ∈ new ∨ c ∈ cs := by
  fun_induction replaceFrom old new fuel cs with
  | case1 cs => exact .inr hc
  | case2 fuel => exact .inr hc
  | case3 fuel d r hfound ih =>
    rcases List.mem_append.1 hc with hc | hc
    · exact .inl hc
    · exact (ih hc).imp_right List.mem_of_mem_drop
  | case4 fuel d r hfound ih =>
    rcases List.mem_cons.1 hc with rfl | hc
    · exact .inr (List.mem_cons_self ..)
    · exact (ih hc).imp_right (List.mem_cons_of_mem d)

theorem isolated_function : Isolated subprogram function where
  ne_nil := by decide
  length_le := by decide
  head_notMem c hc := by
    obtain rfl : 'f' = c := Option.some.inj hc
    decide
  last_notMem c hc := by
    obtain rfl : 'n' = c := Option.some.inj hc
    decide

structure IsNormal (tag : String) : Prop where
  lower : ∀ c ∈ tag.toList, Text.IsLower c
  subprogram : ¬ subprogram <:+: tag.toList

theorem isNormal_normalize (tag : String) : IsNormal (normalize tag) := by
  refine ⟨fun c hc => ?_, ?_⟩
  · rw [normalize, String.toList_ofList] at hc
    rcases mem_of_mem_replaceFrom hc with hc | hc
    · have hfunction : function.all (fun c => Text.IsLower c) = true := by decide
      exact of_decide_eq_true (List.all_eq_true.1 hfunction c hc)
    · exact Text.isLower_of_mem_lowerFrom hc
  · rw [normalize, String.toList_ofList]
    exact isolated_function.not_isInfix_replaceFrom (Nat.le_refl _)

theorem IsNormal.normalize_eq {tag : String} (h : IsNormal tag) : normalize tag = tag := by
  rw [normalize, Text.lowerChars_eq_self h.lower, replace, replaceFrom_eq_self h.subprogram,
    String.ofList_toList]

theorem normalize_normalize (tag : String) : normalize (normalize tag) = normalize tag :=
  (isNormal_normalize tag).normalize_eq

end ElfFacts.Tag
