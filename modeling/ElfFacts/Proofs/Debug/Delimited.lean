import ElfFacts.Proofs.Debug.Canonical

/-!
# Where a canonical text ends

A canonical text has no mark at its end. If a slash follows and the raw texts contain neither slashes
nor line ends, then the text is told from what comes behind it: its fields and attributes are read in
their order, and each of them shows where it ends.
-/
namespace ElfFacts

open Text

/-- What comes after a value, if anything does: the next attribute, or a path with a root. -/
def IsEnd (c : Char) : Prop := c = '\n' ∨ c = '/'

theorem not_isEnd_of_notMem {cs : List Char} (hline : '\n' ∉ cs) (hslash : '/' ∉ cs) :
    ∀ c ∈ cs, ¬ IsEnd c := by
  rintro c hc (rfl | rfl)
  · exact hline hc
  · exact hslash hc

namespace Value

/-- Texts that are shown as they are contain no character that ends them. -/
def Endless : Value → Prop
  | .other s => ∀ c ∈ s.toList, ¬ IsEnd c
  | _ => True

theorem not_isEnd_of_mem_payloadChars {v : Value} (hv : v.Endless) (hkind : v.kind ≠ .text) :
    ∀ c ∈ v.payloadChars, ¬ IsEnd c := by
  cases v with
  | text s => exact absurd rfl hkind
  | unsigned n =>
    exact not_isEnd_of_notMem ((isDigits_toString _).notMem (by decide))
      ((isDigits_toString _).notMem (by decide))
  | signed n =>
    exact not_isEnd_of_notMem (notMem_toString (by decide) _) (notMem_toString (by decide) _)
  | flag b => exact not_isEnd_of_notMem (by cases b <;> decide) (by cases b <;> decide)
  | unitRef n => exact not_isEnd_of_notMem (notMem_hex (by decide) _) (notMem_hex (by decide) _)
  | infoRef n => exact not_isEnd_of_notMem (notMem_hex (by decide) _) (notMem_hex (by decide) _)
  | other s => exact hv

/-- A value in front of the end of its line, or of a path, can be read back. -/
theorem chars_append_inj {v w : Value} {r r' : List Char} (hv : v.Endless) (hw : w.Endless)
    (hr : ∀ c ∈ r.head?, IsEnd c) (hr' : ∀ c ∈ r'.head?, IsEnd c)
    (h : v.chars ++ r = w.chars ++ r') : v = w ∧ r = r' := by
  rw [chars_eq, chars_eq, List.append_assoc, List.append_assoc, List.cons_append,
    List.cons_append] at h
  obtain ⟨hkind, hpayload⟩ :=
    append_cons_inj v.kind.colon_notMem_chars w.kind.colon_notMem_chars h
  have hkind : v.kind = w.kind := Kind.chars_inj hkind
  by_cases htext : v.kind = .text
  · cases v <;> cases htext
    cases w <;> cases hkind
    next s t =>
      obtain ⟨hquoted, hrest⟩ := quotedChars_append_inj hpayload
      exact ⟨by rw [String.toList_inj.1 hquoted], hrest⟩
  · obtain ⟨hpayload, hrest⟩ := append_inj_of_head (not_isEnd_of_mem_payloadChars hv htext)
      (not_isEnd_of_mem_payloadChars hw (hkind ▸ htext)) hr hr' hpayload
    exact ⟨eq_of_payload hkind hpayload, hrest⟩

end Value

namespace DebugEntry

/-- No tag, name or raw text contains the character that ends it in front of a path with a root. -/
structure Delimited (e : DebugEntry) : Prop where
  tag : ' ' ∉ e.tag.toList
  names : ∀ a ∈ e.attributes, '=' ∉ a.1.toList
  values : ∀ a ∈ e.attributes, a.2.Endless

theorem isEnd_head?_lines (lines : List (List Char)) (r : List Char) :
    ∀ c ∈ (lines.flatMap ('\n' :: ·) ++ '/' :: r).head?, IsEnd c := by
  intro c hc
  cases lines with
  | nil => exact .inr (Option.some.inj hc).symm
  | cons line lines => exact .inl (Option.some.inj hc).symm

theorem attributeLine_append_inj {as bs : List (String × Value)} {r r' : List Char}
    (ha : ∀ a ∈ as, '=' ∉ a.1.toList ∧ a.2.Endless) (hb : ∀ b ∈ bs, '=' ∉ b.1.toList ∧ b.2.Endless)
    (h : (as.map attributeLine).flatMap ('\n' :: ·) ++ '/' :: r =
      (bs.map attributeLine).flatMap ('\n' :: ·) ++ '/' :: r') : as = bs ∧ r = r' := by
  induction as generalizing bs with
  | nil =>
    cases bs with
    | nil => exact ⟨rfl, (List.cons_eq_cons.1 h).2⟩
    | cons b bs => exact absurd (List.cons_eq_cons.1 h).1 (by decide)
  | cons a as ih =>
    cases bs with
    | nil => exact absurd (List.cons_eq_cons.1 h).1 (by decide)
    | cons b bs =>
      obtain ⟨hname, hvalue⟩ := ha a (List.mem_cons_self ..)
      obtain ⟨hname', hvalue'⟩ := hb b (List.mem_cons_self ..)
      simp only [List.map_cons, List.flatMap_cons, attributeLine, List.cons_append,
        List.append_assoc, List.cons_inj_right] at h
      obtain ⟨hnames, hrest⟩ := append_cons_inj hname hname' h
      obtain ⟨hvalues, hrest⟩ := Value.chars_append_inj hvalue hvalue' (isEnd_head?_lines _ _)
        (isEnd_head?_lines _ _) hrest
      obtain ⟨rfl, hback⟩ := ih (fun x hx => ha x (List.mem_cons_of_mem a hx))
        (fun x hx => hb x (List.mem_cons_of_mem b hx)) hrest
      exact ⟨by rw [Prod.ext (String.toList_inj.1 hnames) hvalues], hback⟩

theorem not_isEnd_of_mem_childrenChars (e : DebugEntry) : ∀ c ∈ e.childrenChars, ¬ IsEnd c := by
  have hslash : '/' ∉ e.childrenChars := by
    unfold childrenChars
    split <;> decide
  exact not_isEnd_of_notMem e.newline_notMem_childrenChars hslash

/-- A canonical text in front of a slash says what the entry is, and what comes behind it. -/
theorem canonicalChars_append_inj {d e : DebugEntry} {r r' : List Char} (hd : d.Delimited)
    (he : e.Delimited) (h : d.canonicalChars ++ '/' :: r = e.canonicalChars ++ '/' :: r') :
    d.canonicalChars = e.canonicalChars ∧ r = r' := by
  have hrest (x : DebugEntry) (t : List Char) : x.canonicalChars ++ '/' :: t = x.fieldChars
      (x.childrenChars ++ ((x.attributes.map attributeLine).flatMap ('\n' :: ·) ++ '/' :: t)) := by
    rw [canonicalChars_eq, fieldChars, fieldChars]
    simp only [List.append_assoc, List.cons_append]
  rw [hrest, hrest] at h
  obtain ⟨htag, hoffset, hsize, h⟩ := fieldChars_inj hd.tag he.tag h
  obtain ⟨hchildren, h⟩ := append_inj_of_head d.not_isEnd_of_mem_childrenChars
    e.not_isEnd_of_mem_childrenChars (isEnd_head?_lines _ _) (isEnd_head?_lines _ _) h
  obtain ⟨hattributes, h⟩ := attributeLine_append_inj (fun a ha => ⟨hd.names a ha, hd.values a ha⟩)
    (fun a ha => ⟨he.names a ha, he.values a ha⟩) h
  refine ⟨?_, h⟩
  rw [canonicalChars_eq, canonicalChars_eq, fieldChars, fieldChars, htag, hoffset, hsize, hchildren,
    hattributes]

end DebugEntry

end ElfFacts
