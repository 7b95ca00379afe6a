import ElfFacts.Text.Utf8
import Mathlib.Data.List.Basic

/-!
# Characters of one octet

Characters below 0x80 take one octet, which is their code point, and no other character has an octet
below 0x80. So a separator is in a text only if it is among the octets of the text, and among the
octets only if it is in the text.
-/
namespace ElfFacts.Utf8

theorem encode_eq_flatMap (s : String) : encode s = s.toList.flatMap String.utf8EncodeChar := by
  rw [encode, String.toUTF8_eq_toByteArray, ← String.utf8Encode_toList, List.utf8Encode,
    List.data_toByteArray]

theorem encode_append (s t : String) : encode (s ++ t) = encode s ++ encode t := by
  rw [encode_eq_flatMap, String.toList_append, List.flatMap_append, ← encode_eq_flatMap,
    ← encode_eq_flatMap]

theorem encode_inj {s t : String} (h : encode s = encode t) : s = t := by
  apply String.toByteArray_inj.1
  exact ByteArray.ext (Array.toList_inj.1 h)

theorem mem_of_mem_utf8EncodeChar {b : UInt8} (hb : b < 0x80) {c : Char}
    (h : b ∈ String.utf8EncodeChar c) : c = Char.ofNat b.toNat := by
  have hlow : b.toNat < 128 := hb
  have hhigh {n : Nat} (hn : 128 ≤ n) (hn' : n < 256) : b ≠ UInt8.ofNat n := by
    intro he
    rw [he, UInt8.toNat_ofNat', Nat.mod_eq_of_lt hn'] at hlow
    omega
  simp only [String.utf8EncodeChar] at h
  split at h
  · next hv =>
    rw [List.mem_singleton.1 h, UInt8.toNat_ofNat', Nat.mod_eq_of_lt (by omega)]
    exact c.ofNat_toNat.symm
  · split at h
    · simp only [List.mem_cons, List.not_mem_nil, or_false] at h
      rcases h with h | h <;> exact absurd h (hhigh (by omega) (by omega))
    · split at h
      · simp only [List.mem_cons, List.not_mem_nil, or_false] at h
        rcases h with h | h | h <;> exact absurd h (hhigh (by omega) (by omega))
      · simp only [List.mem_cons, List.not_mem_nil, or_false] at h
        rcases h with h | h | h | h <;> exact absurd h (hhigh (by omega) (by omega))

theorem mem_of_mem_encode {b : UInt8} (hb : b < 0x80) {s : String} (h : b ∈ encode s) :
    Char.ofNat b.toNat ∈ s.toList := by
  rw [encode_eq_flatMap] at h
  obtain ⟨c, hc, hbc⟩ := List.mem_flatMap.1 h
  exact mem_of_mem_utf8EncodeChar hb hbc ▸ hc

/-- What is still to come makes a code point of at least 0x80. -/
def State.High : State → Prop
  | .start => True
  | .pending 0 _ _ value => 2 ≤ value
  | .pending 1 lo hi value => (1 ≤ value ∨ 0xA0 ≤ lo.toNat) ∧ hi.toNat ≤ 0xBF
  | .pending 2 lo hi value => (1 ≤ value ∨ 0x90 ≤ lo.toNat) ∧ hi.toNat ≤ 0xBF
  | .pending (_ + 3) _ _ _ => False

/-- Code point 0 stands in for what is no code point. -/
def IsAscii (c : Char) : Prop := c ≠ '\x00' ∧ c.toNat < 0x80

theorem toNat_ofNat {n : Nat} (h : n.isValidChar) : (Char.ofNat n).toNat = n := by
  rw [Char.ofNat, dif_pos h]
  rfl

theorem not_isAscii_ofNat {n : Nat} (h : 0x80 ≤ n) : ¬ IsAscii (Char.ofNat n) := by
  rintro ⟨hzero, hlow⟩
  by_cases hvalid : n.isValidChar
  · rw [toNat_ofNat hvalid] at hlow
    omega
  · exact hzero (by rw [Char.ofNat, dif_neg hvalid]; rfl)

theorem begin_spec (b : UInt8) :
    (begin b).2.High ∧ ∀ c, IsAscii c → some c ∈ (begin b).1 → c.toNat = b.toNat := by
  have hlt := b.toNat_lt
  unfold begin
  simp only [UInt8.lt_iff_toNat_lt, ← UInt8.toNat_inj, UInt8.reduceToNat]
  split
  · next hb =>
    refine ⟨trivial, fun c _ hc => ?_⟩
    rw [Option.some.inj (List.mem_singleton.1 hc), toNat_ofNat (.inl (by omega))]
  · repeat' split
    all_goals simp [State.High]
    all_goals omega

theorem feed_spec {s : State} (hs : s.High) (b : UInt8) :
    (feed s b).2.High ∧ ∀ c, IsAscii c → some c ∈ (feed s b).1 → c.toNat = b.toNat := by
  have hbegin := begin_spec b
  unfold feed
  split
  · exact hbegin
  · next n lo hi value =>
    split
    · next hb =>
      have hlo : lo.toNat ≤ b.toNat := hb.1
      have hhi : b.toNat ≤ hi.toNat := hb.2
      match n, hs with
      | 0, hs =>
        refine ⟨trivial, fun c hascii hc => ?_⟩
        rw [Option.some.inj (List.mem_singleton.1 hc)] at hascii
        have hvalue : 2 ≤ value := hs
        exact absurd hascii (not_isAscii_ofNat (by omega))
      | 1, hs =>
        obtain ⟨hvalue, hle⟩ := hs
        refine ⟨?_, fun c _ hc => (List.not_mem_nil hc).elim⟩
        simp only [State.High]
        omega
      | 2, hs =>
        obtain ⟨hvalue, hle⟩ := hs
        refine ⟨⟨.inl ?_, by decide⟩, fun c _ hc => (List.not_mem_nil hc).elim⟩
        omega
    · refine ⟨hbegin.1, fun c hascii hc => ?_⟩
      rcases List.mem_cons.1 hc with hc | hc
      · cases hc
      · exact hbegin.2 c hascii hc

theorem mem_of_mem_decodeFrom {s : State} (hs : s.High) {octets : List UInt8} {c : Char}
    (hc : IsAscii c) (h : some c ∈ decodeFrom s octets) : UInt8.ofNat c.toNat ∈ octets := by
  induction octets generalizing s with
  | nil => cases s <;> simp [decodeFrom] at h
  | cons b octets ih =>
    obtain ⟨hnext, hout⟩ := feed_spec hs b
    rw [decodeFrom_cons, List.mem_append] at h
    rcases h with h | h
    · rw [hout c hc h, UInt8.ofNat_toNat]
      exact List.mem_cons_self ..
    · exact List.mem_cons_of_mem b (ih hnext h)

theorem eq_map_some_of_mapM {l : List (Option Char)} {cs : List Char} (h : l.mapM id = some cs) :
    l = cs.map some := by
  induction l generalizing cs with
  | nil =>
    rw [List.mapM_nil] at h
    rw [← Option.some.inj h]
    rfl
  | cons o l ih =>
    rw [List.mapM_cons] at h
    obtain ⟨c, hc, h⟩ := Option.bind_eq_some_iff.1 h
    obtain ⟨rest, hrest, h⟩ := Option.bind_eq_some_iff.1 h
    rw [← Option.some.inj h, List.map_cons, ← ih hrest]
    exact congrArg (· :: l) hc

theorem mem_of_strictString {octets : List UInt8} {s : String} (h : strictString octets = some s)
    {c : Char} (hc : IsAscii c) (hm : c ∈ s.toList) : UInt8.ofNat c.toNat ∈ octets := by
  obtain ⟨cs, hcs, rfl⟩ := Option.map_eq_some_iff.1 h
  rw [String.toList_ofList] at hm
  refine mem_of_mem_decodeFrom (s := .start) trivial hc ?_
  rw [← decode, eq_map_some_of_mapM hcs]
  exact List.mem_map_of_mem hm

theorem feed_ne (s : State) (b : UInt8) : (feed s b).1 ≠ [] ∨ (feed s b).2 ≠ .start := by
  have hbegin : (begin b).1 ≠ [] ∨ (begin b).2 ≠ .start := by
    unfold begin
    repeat' split
    all_goals simp
  unfold feed
  split
  · exact hbegin
  · next n lo hi value =>
    split
    · cases n <;> simp
    · exact .inl (List.cons_ne_nil _ _)

theorem decodeFrom_eq_nil {s : State} {octets : List UInt8} (h : decodeFrom s octets = []) :
    s = .start ∧ octets = [] := by
  induction octets generalizing s with
  | nil =>
    cases s with
    | start => exact ⟨rfl, rfl⟩
    | pending => cases h
  | cons b octets ih =>
    rw [decodeFrom_cons, List.append_eq_nil_iff] at h
    rcases feed_ne s b with hne | hne
    · exact absurd h.1 hne
    · exact absurd (ih h.2).1 hne

theorem strictString_ne_empty {octets : List UInt8} {s : String} (h : strictString octets = some s)
    (hne : octets ≠ []) : s ≠ "" := by
  obtain ⟨cs, hcs, rfl⟩ := Option.map_eq_some_iff.1 h
  intro he
  have hnil : cs = [] := by
    rw [← String.toList_ofList (l := cs), he]
    rfl
  have hdecode := eq_map_some_of_mapM hcs
  rw [hnil] at hdecode
  exact hne (decodeFrom_eq_nil hdecode).2

end ElfFacts.Utf8
