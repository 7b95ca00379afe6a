import ElfFacts.Proofs.Text.Split
import ElfFacts.Proofs.Text.Digits

/-!
# Quoted text can be read back

No escaped character is the beginning of another, so a quoted text stands for one text only. It
stays on one line.
-/
namespace ElfFacts.Text

def letterMeaning (c : Char) : Char :=
  if c = '0' then '\x00' else if c = 't' then '\t' else if c = 'r' then '\r'
  else if c = 'n' then '\n' else c

/-- The three forms of an escaped character: itself, a letter, or a code point. -/
inductive Escaped (c : Char) : List Char → Prop
  | itself (hbackslash : c ≠ '\\') (hquote : c ≠ '"') (hline : c ≠ '\n') : Escaped c [c]
  | letter (d : Char) (hmeaning : letterMeaning d = c) (hcode : d ≠ 'u') (hline : d ≠ '\n') :
      Escaped c ['\\', d]
  | code : Escaped c ('\\' :: 'u' :: '\x7b' :: (hexDigits c.toNat ++ ['\x7d']))

theorem escaped_escapeChar (c : Char) : Escaped c (escapeChar c) := by
  unfold escapeChar
  split
  · next h => exact .letter '0' (by rw [h]; rfl) (by decide) (by decide)
  · split
    · next h => exact .letter 't' (by rw [h]; rfl) (by decide) (by decide)
    · split
      · next h => exact .letter 'r' (by rw [h]; rfl) (by decide) (by decide)
      · split
        · next h => exact .letter 'n' (by rw [h]; rfl) (by decide) (by decide)
        · next hline =>
          split
          · next h => exact .letter '"' (by rw [h]; rfl) (by decide) (by decide)
          · next hquote =>
            split
            · next h => exact .letter '\\' (by rw [h]; rfl) (by decide) (by decide)
            · next hbackslash =>
              split
              · exact .itself hbackslash hquote hline
              · split
                · exact .code
                · exact .itself hbackslash hquote hline

theorem Escaped.append_inj {c d : Char} {e f r r' : List Char} (hc : Escaped c e)
    (hd : Escaped d f) (h : e ++ r = f ++ r') : c = d ∧ r = r' := by
  cases hc with
  | itself hbackslash =>
    cases hd with
    | itself => exact List.cons_eq_cons.1 h
    | letter => exact absurd (List.cons_eq_cons.1 h).1 hbackslash
    | code => exact absurd (List.cons_eq_cons.1 h).1 hbackslash
  | letter x hx hcode =>
    cases hd with
    | itself hbackslash => exact absurd (List.cons_eq_cons.1 h).1.symm hbackslash
    | letter y hy =>
      obtain ⟨rfl, hrest⟩ := List.cons_eq_cons.1 (List.cons_eq_cons.1 h).2
      exact ⟨hx.symm.trans hy, hrest⟩
    | code => exact absurd (List.cons_eq_cons.1 (List.cons_eq_cons.1 h).2).1 hcode
  | code =>
    cases hd with
    | itself hbackslash => exact absurd (List.cons_eq_cons.1 h).1.symm hbackslash
    | letter y _ hcode =>
      exact absurd (List.cons_eq_cons.1 (List.cons_eq_cons.1 h).2).1.symm hcode
    | code =>
      have hbrace (n : Nat) : '\x7d' ∉ hexDigits n := (isDigits_hexDigits n).notMem (by decide)
      simp only [List.cons_append, List.append_assoc, List.cons_inj_right, List.nil_append] at h
      obtain ⟨hdigits, hrest⟩ := append_cons_inj (hbrace _) (hbrace _) h
      exact ⟨Char.toNat_inj.1 (hexDigits_inj hdigits), hrest⟩

theorem Escaped.newline_notMem {c : Char} {e : List Char} (h : Escaped c e) : '\n' ∉ e := by
  cases h with
  | itself _ _ hline => simpa using hline.symm
  | letter d _ _ hline => simpa using hline.symm
  | code =>
    have hdigits : '\n' ∉ hexDigits c.toNat := (isDigits_hexDigits _).notMem (by decide)
    simp [hdigits]

theorem Escaped.quote_append_ne {c : Char} {e r r' : List Char} (h : Escaped c e) :
    '"' :: r ≠ e ++ r' := by
  cases h with
  | itself _ hquote => exact fun he => hquote (List.cons_eq_cons.1 he).1.symm
  | letter => exact fun he => absurd (List.cons_eq_cons.1 he).1 (by decide)
  | code => exact fun he => absurd (List.cons_eq_cons.1 he).1 (by decide)

section

variable {e : Char → List Char} {cs ds r r' : List Char}

theorem Escaped.flatMap_append_inj (he : ∀ c, Escaped c (e c))
    (h : cs.flatMap e ++ '"' :: r = ds.flatMap e ++ '"' :: r') : cs = ds ∧ r = r' := by
  induction cs generalizing ds with
  | nil =>
    cases ds with
    | nil => exact ⟨rfl, (List.cons_eq_cons.1 h).2⟩
    | cons d ds =>
      rw [List.flatMap_cons, List.append_assoc] at h
      exact absurd h (he d).quote_append_ne
  | cons c cs ih =>
    cases ds with
    | nil =>
      rw [List.flatMap_cons, List.append_assoc] at h
      exact absurd h.symm (he c).quote_append_ne
    | cons d ds =>
      rw [List.flatMap_cons, List.flatMap_cons, List.append_assoc, List.append_assoc] at h
      obtain ⟨rfl, hrest⟩ := (he c).append_inj (he d) h
      obtain ⟨rfl, hback⟩ := ih hrest
      exact ⟨rfl, hback⟩

/-- Between quotes, any way of escaping shows where a text ends. -/
theorem Escaped.quoted_append_inj (he : ∀ c, Escaped c (e c))
    (h : '"' :: (cs.flatMap e ++ ['"']) ++ r = '"' :: (ds.flatMap e ++ ['"']) ++ r') :
    cs = ds ∧ r = r' := by
  simp only [List.cons_append, List.append_assoc, List.nil_append] at h
  exact Escaped.flatMap_append_inj he (List.cons_eq_cons.1 h).2

theorem Escaped.newline_notMem_quoted (he : ∀ c, Escaped c (e c)) (cs : List Char) :
    '\n' ∉ '"' :: (cs.flatMap e ++ ['"']) := by
  intro h
  rcases List.mem_cons.1 h with h | h
  · exact absurd h (by decide)
  · rcases List.mem_append.1 h with h | h
    · obtain ⟨c, -, hc⟩ := List.mem_flatMap.1 h
      exact (he c).newline_notMem hc
    · exact absurd (List.mem_singleton.1 h) (by decide)

end

theorem quotedChars_append_inj {cs ds r r' : List Char}
    (h : quotedChars cs ++ r = quotedChars ds ++ r') : cs = ds ∧ r = r' :=
  Escaped.quoted_append_inj escaped_escapeChar h

theorem quotedChars_inj {cs ds : List Char} (h : quotedChars cs = quotedChars ds) : cs = ds := by
  have happend : quotedChars cs ++ [] = quotedChars ds ++ [] := by rw [h]
  exact (quotedChars_append_inj happend).1

theorem newline_notMem_quotedChars (cs : List Char) : '\n' ∉ quotedChars cs :=
  Escaped.newline_notMem_quoted escaped_escapeChar cs

end ElfFacts.Text
