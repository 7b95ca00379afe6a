import ElfFacts.Json.Printer
import ElfFacts.Proofs.Json.Parsed
import Mathlib.Data.List.TakeWhile

/-!
# Written values are read back

The lexer reads the characters of a value as the tokens of the value. Where the value ends in a word
or a number, the last token is complete only at the next character, which is a new line, a comma or
the blank behind the input.
-/
namespace ElfFacts.Json

/-! ## Texts -/

def pieceOf (c : Char) : Piece :=
  if c ∈ ['\x08', '\x0c', '\n', '\r', '\t'] then .char c
  else if c.toNat < 0x20 then .unit c.toNat
  else .char c

theorem hexValue?_hexDigit {d : Nat} (hd : d < 16) : hexValue? (Text.hexDigit d) = some d := by
  revert d
  decide

theorem characters_unit {n : Nat} (hlead : isLeading n = false) (htrail : isTrailing n = false)
    (rest : List Piece) :
    characters (.unit n :: rest) = (characters rest).map (Char.ofNat n :: ·) := by
  cases rest with
  | nil => simp [characters, hlead, htrail]
  | cons piece rest => cases piece <;> simp [characters, hlead, htrail]

theorem characters_map_pieceOf (cs : List Char) : characters (cs.map pieceOf) = some cs := by
  induction cs with
  | nil => rfl
  | cons c cs ih =>
    rw [List.map_cons, pieceOf]
    split
    · rw [characters, ih]
      rfl
    · split
      · next hlow =>
        have hlead : isLeading c.toNat = false := by simp [isLeading]; omega
        have htrail : isTrailing c.toNat = false := by simp [isTrailing]; omega
        rw [characters_unit hlead htrail, ih, c.ofNat_toNat]
        rfl
      · rw [characters, ih]
        rfl

namespace Lexer

def run (l : Lexer) (cs : List Char) : Option Lexer := (cs.map some).foldlM step l

theorem run_cons {l m : Lexer} {c : Char} (h : l.step (some c) = some m) (cs : List Char) :
    l.run (c :: cs) = m.run cs := by
  rw [run, List.map_cons, List.foldlM_cons, h]
  rfl

theorem run_append {l m : Lexer} {front : List Char} (h : l.run front = some m)
    (back : List Char) : l.run (front ++ back) = m.run back := by
  rw [run, List.map_append, List.foldlM_append]
  exact congrArg (· >>= fun l => (back.map some).foldlM step l) h

theorem step_text (pieces : List Piece) (ts : List Token) (c : Char) :
    step ⟨.text pieces, ts⟩ (some c) = text pieces ts (some c) := rfl

theorem step_unit (pieces : List Piece) (digits value : Nat) (ts : List Token) (c : Char) :
    step ⟨.unit pieces digits value, ts⟩ (some c) = unit pieces digits value ts c := rfl

theorem step_word (cs : List Char) (ts : List Token) (c : Char) :
    step ⟨.word cs, ts⟩ (some c) = if isWordChar c then some ⟨.word (c :: cs), ts⟩
      else (wordToken? cs.reverse).bind fun t => between (t :: ts) c := rfl

theorem run_control {n : Nat} (hn : n < 0x20) (pieces : List Piece) (ts : List Token) :
    (⟨.text pieces, ts⟩ : Lexer).run
        ['\\', 'u', '0', '0', Text.hexDigit (n / 16), Text.hexDigit (n % 16)] =
      some ⟨.text (.unit n :: pieces), ts⟩ := by
  have hhigh : hexValue? (Text.hexDigit (n / 16)) = some (n / 16) := hexValue?_hexDigit (by omega)
  have hlow : hexValue? (Text.hexDigit (n % 16)) = some (n % 16) := hexValue?_hexDigit (by omega)
  have hthird : step ⟨.unit pieces 2 0, ts⟩ (some (Text.hexDigit (n / 16))) =
      some ⟨.unit pieces 1 (0 * 16 + n / 16), ts⟩ := by
    rw [step_unit, unit, hhigh]
    rfl
  have hlast : step ⟨.unit pieces 1 (0 * 16 + n / 16), ts⟩ (some (Text.hexDigit (n % 16))) =
      some ⟨.text (.unit n :: pieces), ts⟩ := by
    have hvalue : (0 * 16 + n / 16) * 16 + n % 16 = n := by omega
    rw [step_unit, unit, hlow, Option.map_some, if_pos (Nat.le_refl 1), hvalue]
  rw [run_cons (m := ⟨.escape pieces, ts⟩) rfl, run_cons (m := ⟨.unit pieces 4 0, ts⟩) rfl,
    run_cons (m := ⟨.unit pieces 3 0, ts⟩) rfl, run_cons (m := ⟨.unit pieces 2 0, ts⟩) rfl,
    run_cons hthird, run_cons hlast]
  rfl

theorem run_escape (c : Char) (pieces : List Piece) (ts : List Token) :
    (⟨.text pieces, ts⟩ : Lexer).run (Json.escape c) = some ⟨.text (pieceOf c :: pieces), ts⟩ := by
  by_cases hshort : c ∈ ['"', '\\', '\x08', '\x0c', '\n', '\r', '\t']
  · simp only [List.mem_cons, List.not_mem_nil, or_false] at hshort
    rcases hshort with rfl | rfl | rfl | rfl | rfl | rfl | rfl <;> rfl
  · simp only [List.mem_cons, List.not_mem_nil, or_false, not_or] at hshort
    obtain ⟨hquote, hslash, hb, hf, hn, hr, ht⟩ := hshort
    have hpiece : pieceOf c = if c.toNat < 0x20 then .unit c.toNat else .char c :=
      if_neg (by simp [hb, hf, hn, hr, ht])
    rw [Json.escape, if_neg hquote, if_neg hslash, if_neg hb, if_neg hf, if_neg hn, if_neg hr,
      if_neg ht, hpiece]
    by_cases hlow : c.toNat < 0x20
    · rw [if_pos hlow, if_pos hlow]
      exact run_control hlow pieces ts
    · have hstep : step ⟨.text pieces, ts⟩ (some c) = some ⟨.text (.char c :: pieces), ts⟩ := by
        rw [step_text, text, if_neg hquote, if_neg hslash, if_neg hlow]
      rw [if_neg hlow, if_neg hlow, run_cons hstep]
      rfl

theorem run_escapes (cs : List Char) (pieces : List Piece) (ts : List Token) :
    (⟨.text pieces, ts⟩ : Lexer).run (cs.flatMap Json.escape) =
      some ⟨.text ((cs.map pieceOf).reverse ++ pieces), ts⟩ := by
  induction cs generalizing pieces with
  | nil => rfl
  | cons c cs ih =>
    rw [List.flatMap_cons, run_append (run_escape c pieces ts), ih, List.map_cons,
      List.reverse_cons, List.append_assoc, List.singleton_append]

theorem run_quote (s : String) (ts : List Token) :
    (⟨.between, ts⟩ : Lexer).run (quote s) = some ⟨.between, .text (some s) :: ts⟩ := by
  have htext : textOf ((s.toList.map pieceOf).reverse ++ []).reverse = some s := by
    rw [List.append_nil, List.reverse_reverse, textOf, characters_map_pieceOf, Option.map_some,
      String.ofList_toList]
  have hend : step ⟨.text ((s.toList.map pieceOf).reverse ++ []), ts⟩ (some '"') =
      some ⟨.between, .text (some s) :: ts⟩ := by
    rw [step_text, text, if_pos rfl, htext]
  rw [quote, run_cons (m := ⟨.text [], ts⟩) rfl, run_append (run_escapes s.toList [] ts),
    run_cons hend]
  rfl

end Lexer

/-! ## Numbers and words -/

theorem isWordChar_of_isDigit {c : Char} (h : c.isDigit = true) : Lexer.isWordChar c = true := by
  simp [Lexer.isWordChar, Char.isAlphanum, h]

/-- What a part of a number takes away are characters of words. -/
def TakesWord (f : List Char → Option (List Char)) : Prop :=
  ∀ ⦃cs rest⦄, f cs = some rest → ∀ c ∈ cs, Lexer.isWordChar c = true ∨ c ∈ rest

theorem takesWord_bind {f g : List Char → Option (List Char)} (hf : TakesWord f)
    (hg : TakesWord g) : TakesWord fun cs => f cs >>= g := by
  intro cs rest h c hc
  obtain ⟨middle, hmiddle, hrest⟩ := Option.bind_eq_some_iff.1 h
  rcases hf hmiddle c hc with hword | hc
  · exact .inl hword
  · exact hg hrest c hc

theorem takesWord_someDigits : TakesWord someDigits? := by
  intro cs rest h c hc
  have hrest : rest = dropDigits cs := by
    unfold someDigits? at h
    split at h
    · split at h
      · exact (Option.some.inj h).symm
      · cases h
    · cases h
  rw [← List.takeWhile_append_dropWhile (p := Char.isDigit) (l := cs), List.mem_append] at hc
  rcases hc with hc | hc
  · exact .inl (isWordChar_of_isDigit (List.mem_takeWhile_imp hc))
  · exact .inr (hrest ▸ hc)

theorem TakesWord.cons {cs rest : List Char} {first : Char}
    (hfirst : Lexer.isWordChar first = true)
    (h : ∀ c ∈ cs, Lexer.isWordChar c = true ∨ c ∈ rest) :
    ∀ c ∈ first :: cs, Lexer.isWordChar c = true ∨ c ∈ rest := by
  intro c hc
  rcases List.mem_cons.1 hc with rfl | hc
  · exact .inl hfirst
  · exact h c hc

theorem takesWord_wholePart : TakesWord wholePart? := by
  intro cs rest h
  unfold wholePart? at h
  split at h
  · exact TakesWord.cons (by decide) fun c hc => .inr (Option.some.inj h ▸ hc)
  · exact takesWord_someDigits h

theorem takesWord_fraction : TakesWord fraction? := by
  intro cs rest h
  unfold fraction? at h
  split at h
  · exact TakesWord.cons (by decide) (takesWord_someDigits h)
  · exact fun c hc => .inr (Option.some.inj h ▸ hc)

theorem takesWord_exponent : TakesWord exponent? := by
  intro cs rest h
  unfold exponent? at h
  split at h
  · next first tail =>
    split at h
    · next he =>
      have hfirst : Lexer.isWordChar first = true := by rcases he with rfl | rfl <;> decide
      split at h
      · exact TakesWord.cons hfirst (TakesWord.cons (by decide) (takesWord_someDigits h))
      · exact TakesWord.cons hfirst (TakesWord.cons (by decide) (takesWord_someDigits h))
      · exact TakesWord.cons hfirst (takesWord_someDigits h)
    · exact fun c hc => .inr (Option.some.inj h ▸ hc)
  · exact fun c hc => .inr (Option.some.inj h ▸ hc)

theorem all_isWordChar_of_isNumber {cs : List Char} (h : isNumber cs = true) :
    cs.all Lexer.isWordChar = true := by
  have hunsigned {cs : List Char} (h : (wholePart? cs >>= fraction? >>= exponent?) = some []) :
      ∀ c ∈ cs, Lexer.isWordChar c = true ∨ c ∈ [] :=
    takesWord_bind (takesWord_bind takesWord_wholePart takesWord_fraction) takesWord_exponent h
  unfold isNumber at h
  have h := of_decide_eq_true h
  rw [List.all_eq_true]
  intro c hc
  refine Or.resolve_right ?_ (List.not_mem_nil (a := c))
  split at h
  · exact TakesWord.cons (by decide) (hunsigned h) c hc
  · exact hunsigned h c hc

theorem wordToken?_of_isNumber {cs : List Char} (h : isNumber cs = true) :
    wordToken? cs = some (.number cs) := by
  have hne {word : List Char} (hword : isNumber word = false) : cs ≠ word := by
    rintro rfl
    rw [h] at hword
    cases hword
  rw [wordToken?, if_neg (hne (by decide)), if_neg (hne (by decide)), if_neg (hne (by decide)),
    if_pos h]

theorem head?_toDigits {n : Nat} (h : (Nat.toDigits 10 n).head? = some '0') : n = 0 := by
  induction n using Nat.strongRecOn with
  | ind n ih =>
    by_cases hn : n < 10
    · rw [Nat.toDigits_of_lt_base hn, List.head?_cons, Option.some.injEq] at h
      exact Nat.digitChar_eq_zero.1 h
    · have hle : 10 ≤ n := Nat.le_of_not_lt hn
      obtain ⟨c, r, hcons⟩ := List.exists_cons_of_ne_nil (Nat.toDigits_ne_nil (n := n / 10) (b := 10))
      rw [Nat.toDigits_of_base_le (by decide) hle, hcons, List.cons_append, List.head?_cons] at h
      have hzero := ih (n / 10) (by omega) (by rw [hcons, List.head?_cons, h])
      omega

theorem natOfDigits?_toDigits (n : Nat) : natOfDigits? (Nat.toDigits 10 n) = some n := by
  have hdigits : ∀ c ∈ Nat.toDigits 10 n, c.isDigit = true :=
    fun c hc => Nat.isDigit_of_mem_toDigits (by decide) (by decide) hc
  have hall : (Nat.toDigits 10 n).all Char.isDigit = true := List.all_eq_true.2 hdigits
  have hzero : ¬ ((Nat.toDigits 10 n).head? = some '0' ∧ Nat.toDigits 10 n ≠ ['0']) := by
    rintro ⟨hhead, hne⟩
    rw [head?_toDigits hhead] at hne
    exact hne rfl
  rw [natOfDigits?, hall, if_neg (by simp [Nat.toDigits_ne_nil]), if_neg hzero,
    Nat.ofDigitChars_ten_toDigits]

theorem isNumber_of_natOfDigits {ds : List Char} {n : Nat} (h : natOfDigits? ds = some n) :
    isNumber ds = true := by
  unfold natOfDigits? at h
  split at h
  · cases h
  · next hdigits =>
    rw [not_or, Bool.not_eq_true, Bool.not_eq_false'] at hdigits
    obtain ⟨c, r, rfl⟩ := List.exists_cons_of_ne_nil hdigits.1
    have hall : ∀ d ∈ c :: r, d.isDigit = true := List.all_eq_true.1 hdigits.2
    have hfirst : c.isDigit = true := hall c (List.mem_cons_self ..)
    split at h
    · cases h
    · next hzero =>
      by_cases hc : c = '0'
      · have hr : r = [] := by simpa [hc] using hzero
        rw [hc, hr]
        decide
      · have hsign : c ≠ '-' := by
          rintro rfl
          exact absurd hfirst (by decide)
        have hdrop : dropDigits (c :: r) = [] := List.dropWhile_eq_nil_iff.2 hall
        have hwhole : wholePart? (c :: r) = some [] := by
          unfold wholePart?
          split
          · next heq => exact absurd (List.cons_eq_cons.1 heq).1 hc
          · rw [someDigits?, if_pos hfirst, hdrop]
        simp only [isNumber]
        split
        · next heq => exact absurd (List.cons_eq_cons.1 heq).1 hsign
        · rw [hwhole]
          decide

namespace Lexer

/-- At the next character that belongs to no word, the tokens are complete. -/
def Reads (l : Lexer) (ts : List Token) : Prop :=
  ∀ c, isWordChar c = false → l.step (some c) = between ts c

variable {l : Lexer} {ts : List Token}

theorem reads_between (ts : List Token) : Reads ⟨.between, ts⟩ ts := fun _ _ => rfl

theorem between_of_isWordChar {c : Char} (h : isWordChar c = true) :
    between ts c = some ⟨.word [c], ts⟩ := by
  have hspace : isSpace c = false := by
    by_contra hspace
    rw [Bool.not_eq_false, isSpace] at hspace
    simp only [Bool.or_eq_true, decide_eq_true_eq] at hspace
    rcases hspace with ((rfl | rfl) | rfl) | rfl <;> exact absurd h (by decide)
  have hquote : c ≠ '"' := by
    rintro rfl
    exact absurd h (by decide)
  rw [between, hspace, if_neg Bool.false_ne_true, if_neg hquote, if_pos h]

theorem run_more {cs : List Char} (h : ∀ c ∈ cs, isWordChar c = true) (before : List Char) :
    (⟨.word before, ts⟩ : Lexer).run cs = some ⟨.word (cs.reverse ++ before), ts⟩ := by
  induction cs generalizing before with
  | nil => rfl
  | cons c cs ih =>
    have hstep : step ⟨.word before, ts⟩ (some c) = some ⟨.word (c :: before), ts⟩ := by
      rw [step_word, if_pos (h c (List.mem_cons_self ..))]
    rw [run_cons hstep, ih fun d hd => h d (List.mem_cons_of_mem c hd), List.reverse_cons,
      List.append_assoc, List.singleton_append]

theorem run_word {cs : List Char} {t : Token} (hne : cs ≠ [])
    (hword : cs.all isWordChar = true) (ht : wordToken? cs = some t) (ts : List Token) :
    ∃ l, (⟨.between, ts⟩ : Lexer).run cs = some l ∧ l.Reads (t :: ts) := by
  have h : ∀ c ∈ cs, isWordChar c = true := List.all_eq_true.1 hword
  obtain ⟨c, rest, rfl⟩ := List.exists_cons_of_ne_nil hne
  have hfirst : step ⟨.between, ts⟩ (some c) = some ⟨.word [c], ts⟩ :=
    between_of_isWordChar (h c (List.mem_cons_self ..))
  refine ⟨⟨.word (rest.reverse ++ [c]), ts⟩, ?_, fun d hd => ?_⟩
  · rw [run_cons hfirst, run_more fun d hd => h d (List.mem_cons_of_mem c hd)]
  · have hreverse : (rest.reverse ++ [c]).reverse = c :: rest := by simp
    rw [step_word, hd, if_neg Bool.false_ne_true, hreverse, ht, Option.bind_some]

/-! ## Values -/

theorem run_blanks (n : Nat) (ts : List Token) :
    (⟨.between, ts⟩ : Lexer).run (List.replicate n ' ') = some ⟨.between, ts⟩ := by
  induction n with
  | zero => rfl
  | succ n ih => rw [List.replicate_succ, run_cons (m := ⟨.between, ts⟩) rfl, ih]

theorem Reads.run_line (h : l.Reads ts) (depth : Nat) :
    l.run (line depth) = some ⟨.between, ts⟩ := by
  rw [line, run_cons ((h '\n' (by decide)).trans rfl), run_blanks]

theorem Reads.step_comma (h : l.Reads ts) : l.step (some ',') = some ⟨.between, .comma :: ts⟩ :=
  (h ',' (by decide)).trans rfl

theorem run_name (s : String) (ts : List Token) :
    (⟨.between, ts⟩ : Lexer).run (textChars (some s) ++ [':', ' ']) =
      some ⟨.between, .colon :: .text (some s) :: ts⟩ := by
  rw [textChars, Option.getD_some, run_append (run_quote s ts)]
  rfl

end Lexer

open Lexer

mutual

/-- Numbers are written as JSON has them, and all texts and names are well formed. -/
def Writable : Json → Prop
  | .null | .bool _ => True
  | .number literal => isNumber literal = true
  | .text s => s.isSome
  | .list items => WritableItems items
  | .object members => WritableMembers members

def WritableItems : List Json → Prop
  | [] => True
  | j :: rest => j.Writable ∧ WritableItems rest

def WritableMembers : List (JsonText × Json) → Prop
  | [] => True
  | (name, j) :: rest => name.isSome ∧ j.Writable ∧ WritableMembers rest

end

mutual

theorem run_chars : ∀ (j : Json) (depth : Nat) (ts : List Token), j.Writable →
    ∃ l, (⟨.between, ts⟩ : Lexer).run (chars depth j) = some l ∧ l.Reads (j.tokens.reverse ++ ts)
  | .null, depth, ts, _ => by
    rw [chars, tokens]
    exact run_word (List.cons_ne_nil _ _) (by decide) (by decide) ts
  | .bool true, depth, ts, _ => by
    rw [chars, tokens]
    exact run_word (List.cons_ne_nil _ _) (by decide) (by decide) ts
  | .bool false, depth, ts, _ => by
    rw [chars, tokens]
    exact run_word (List.cons_ne_nil _ _) (by decide) (by decide) ts
  | .number literal, depth, ts, h => by
    rw [Writable] at h
    rw [chars, tokens]
    refine run_word ?_ (all_isWordChar_of_isNumber h) (wordToken?_of_isNumber h) ts
    rintro rfl
    exact absurd h (by decide)
  | .text s, depth, ts, h => by
    rw [Writable] at h
    obtain ⟨s, rfl⟩ := Option.isSome_iff_exists.1 h
    rw [chars, tokens]
    exact ⟨_, run_quote s ts, reads_between _⟩
  | .list [], depth, ts, _ => by
    rw [chars, tokens]
    exact ⟨_, rfl, reads_between _⟩
  | .list (j :: rest), depth, ts, h => by
    rw [Writable, WritableItems] at h
    obtain ⟨l, hl, hreads⟩ := run_chars j (depth + 1) (.openList :: ts) h.1
    obtain ⟨l', hl', hreads'⟩ := run_itemChars rest (depth + 1) h.2 hreads
    rw [chars, tokens]
    simp only [List.append_assoc]
    rw [run_cons (m := ⟨.between, .openList :: ts⟩) rfl,
      run_append ((reads_between _).run_line _), run_append hl, run_append hl',
      run_append (hreads'.run_line depth)]
    refine ⟨_, rfl, ?_⟩
    simpa using reads_between _
  | .object [], depth, ts, _ => by
    rw [chars, tokens]
    exact ⟨_, rfl, reads_between _⟩
  | .object ((name, j) :: rest), depth, ts, h => by
    rw [Writable, WritableMembers] at h
    obtain ⟨hname, hj, hrest⟩ := h
    obtain ⟨s, rfl⟩ := Option.isSome_iff_exists.1 hname
    obtain ⟨l, hl, hreads⟩ :=
      run_chars j (depth + 1) (.colon :: .text (some s) :: .openObject :: ts) hj
    obtain ⟨l', hl', hreads'⟩ := run_memberChars rest (depth + 1) hrest hreads
    rw [chars, tokens]
    simp only [List.append_assoc]
    rw [run_cons (m := ⟨.between, .openObject :: ts⟩) rfl,
      run_append ((reads_between _).run_line _), ← List.append_assoc (textChars _),
      run_append (run_name s _), run_append hl, run_append hl',
      run_append (hreads'.run_line depth)]
    refine ⟨_, rfl, ?_⟩
    simpa using reads_between _

theorem run_itemChars : ∀ (rest : List Json) (depth : Nat) {l : Lexer} {ts : List Token},
    WritableItems rest → l.Reads ts →
      ∃ l', l.run (itemChars depth rest) = some l' ∧ l'.Reads ((itemTokens rest).reverse ++ ts)
  | [], depth, l, ts, _, hreads => by
    rw [itemChars, itemTokens]
    exact ⟨l, rfl, hreads⟩
  | j :: rest, depth, l, ts, h, hreads => by
    rw [WritableItems] at h
    obtain ⟨l', hl', hreads'⟩ := run_chars j depth (.comma :: ts) h.1
    obtain ⟨l'', hl'', hreads''⟩ := run_itemChars rest depth h.2 hreads'
    rw [itemChars, itemTokens, List.append_assoc, run_cons hreads.step_comma,
      run_append ((reads_between _).run_line _), run_append hl', hl'']
    refine ⟨l'', rfl, ?_⟩
    simpa using hreads''

theorem run_memberChars : ∀ (rest : List (JsonText × Json)) (depth : Nat) {l : Lexer}
    {ts : List Token}, WritableMembers rest → l.Reads ts →
      ∃ l', l.run (memberChars depth rest) = some l' ∧
        l'.Reads ((memberTokens rest).reverse ++ ts)
  | [], depth, l, ts, _, hreads => by
    rw [memberChars, memberTokens]
    exact ⟨l, rfl, hreads⟩
  | (name, j) :: rest, depth, l, ts, h, hreads => by
    rw [WritableMembers] at h
    obtain ⟨hname, hj, hrest⟩ := h
    obtain ⟨s, rfl⟩ := Option.isSome_iff_exists.1 hname
    obtain ⟨l', hl', hreads'⟩ :=
      run_chars j depth (.colon :: .text (some s) :: .comma :: ts) hj
    obtain ⟨l'', hl'', hreads''⟩ := run_memberChars rest depth hrest hreads'
    rw [memberChars, memberTokens]
    simp only [List.append_assoc]
    rw [run_cons hreads.step_comma, run_append ((reads_between _).run_line _),
      ← List.append_assoc (textChars _), run_append (run_name s _), run_append hl', hl'']
    refine ⟨l'', rfl, ?_⟩
    simpa using hreads''

end

theorem tokens?_chars {j : Json} (h : j.Writable) (depth : Nat) :
    tokens? ((chars depth j).map some) = some j.tokens := by
  obtain ⟨l, hl, hreads⟩ := run_chars j depth [] h
  rw [List.append_nil] at hreads
  have hrun : ((chars depth j).map some ++ [some ' ']).foldlM Lexer.step {} =
      some ⟨.between, j.tokens.reverse⟩ := by
    rw [List.foldlM_append, show ((chars depth j).map some).foldlM Lexer.step {} = some l from hl]
    exact (congrArg (· >>= pure) (hreads ' ' (by decide))).trans rfl
  rw [tokens?, hrun]
  exact congrArg some (List.reverse_reverse _)

/-- A value that is written is read back, whatever it holds. -/
theorem parse?_chars {j : Json} (h : j.Writable) (depth : Nat) :
    parse? ((chars depth j).map some) = some j := by
  rw [parse?, tokens?_chars h depth]
  exact ofTokens?_tokens j

end ElfFacts.Json
