import ElfFacts.Proofs.Text.Utf8
import Mathlib.Algebra.Group.Nat.Defs
import Mathlib.Tactic.SplitIfs

/-!
# Texts in the order of their octets

Texts are compared by code points, and their octets compare the same way: of two characters, the
lower one has the lower octet at the first place where they differ. Neither is a prefix of the
other, so what comes after a character does not matter.
-/
namespace ElfFacts.Utf8

/-- The lists differ at some place, and there the first one is lower. -/
def FirstLower (l m : List UInt8) : Prop :=
  ∃ p b r b' r', l = p ++ b :: r ∧ m = p ++ b' :: r' ∧ b < b'

namespace FirstLower

theorem append {l m : List UInt8} (h : FirstLower l m) (x y : List UInt8) :
    FirstLower (l ++ x) (m ++ y) := by
  obtain ⟨p, b, r, b', r', rfl, rfl, hb⟩ := h
  exact ⟨p, b, r ++ x, b', r' ++ y, by simp, by simp, hb⟩

theorem lt {l m : List UInt8} (h : FirstLower l m) : l < m := by
  obtain ⟨p, b, r, b', r', rfl, rfl, hb⟩ := h
  exact List.append_left_lt (List.Lex.rel hb)

end FirstLower

/-- A number in digits of six bits after a first octet that is `lead` more than the leading digit. -/
def octets (lead : Nat) : Nat → Nat → List UInt8
  | 0, v => [UInt8.ofNat (v + lead)]
  | n + 1, v => octets lead n (v / 64) ++ [UInt8.ofNat (v % 64 + 0x80)]

theorem ofNat_lt {m n : Nat} (h : m < n) (hn : n < 256) : UInt8.ofNat m < UInt8.ofNat n := by
  rw [UInt8.lt_iff_toNat_lt, UInt8.toNat_ofNat', UInt8.toNat_ofNat', Nat.mod_eq_of_lt (by omega),
    Nat.mod_eq_of_lt (by omega)]
  exact h

theorem octets_eq_cons (lead n v : Nat) :
    ∃ r, octets lead n v = UInt8.ofNat (v / 64 ^ n + lead) :: r := by
  induction n generalizing v with
  | zero => exact ⟨[], by simp [octets]⟩
  | succ n ih =>
    obtain ⟨r, hr⟩ := ih (v / 64)
    refine ⟨r ++ [UInt8.ofNat (v % 64 + 0x80)], ?_⟩
    rw [octets, hr, Nat.div_div_eq_div_mul, ← Nat.pow_succ', List.cons_append]

theorem firstLower_octets {lead n v w : Nat} (h : v < w) (hw : w / 64 ^ n + lead < 256) :
    FirstLower (octets lead n v) (octets lead n w) := by
  induction n generalizing v w with
  | zero =>
    rw [Nat.pow_zero, Nat.div_one] at hw
    exact ⟨[], _, [], _, [], rfl, rfl, ofNat_lt (by omega) hw⟩
  | succ n ih =>
    rcases Nat.lt_or_eq_of_le (Nat.div_le_div_right (Nat.le_of_lt h)) with hdiv | hdiv
    · refine (ih hdiv ?_).append _ _
      rwa [Nat.div_div_eq_div_mul, ← Nat.pow_succ']
    · refine ⟨octets lead n (w / 64), _, [], _, [], by rw [octets, hdiv], rfl, ?_⟩
      exact ofNat_lt (by omega) (by omega)

/-- How many octets come after the first one of a code point. -/
def following (v : Nat) : Nat :=
  if v ≤ 0x7F then 0 else if v ≤ 0x7FF then 1 else if v ≤ 0xFFFF then 2 else 3

/-- A bound below the first octets that so many octets follow, and above those that fewer do. -/
def mark : Nat → Nat
  | 0 => 0
  | 1 => 0xC0
  | 2 => 0xE0
  | 3 => 0xF0
  | n + 4 => 0x100 + n

theorem mark_le {m n : Nat} (h : m ≤ n) : mark m ≤ mark n := by
  induction h with
  | refl => exact Nat.le_refl _
  | @step n _ ih =>
    refine Nat.le_trans ih ?_
    match n with
    | 0 | 1 | 2 | 3 => decide
    | n + 4 => exact Nat.le_succ _

theorem following_le (v : Nat) : following v ≤ 3 := by
  unfold following
  split_ifs <;> decide

theorem following_mono {v w : Nat} (h : v ≤ w) : following v ≤ following w := by
  unfold following
  split_ifs <;> omega

def firstOctet (v : Nat) : Nat := v / 64 ^ following v + mark (following v)

theorem firstOctet_lt_mark {v : Nat} (hv : v < 0x110000) :
    firstOctet v < mark (following v + 1) := by
  unfold firstOctet
  by_cases h1 : v ≤ 0x7F
  · simp only [following, if_pos h1, mark]
    omega
  · by_cases h2 : v ≤ 0x7FF
    · simp only [following, if_neg h1, if_pos h2, mark]
      omega
    · by_cases h3 : v ≤ 0xFFFF
      · simp only [following, if_neg h1, if_neg h2, if_pos h3, mark]
        omega
      · simp only [following, if_neg h1, if_neg h2, if_neg h3, mark]
        omega

theorem firstOctet_lt {v : Nat} (hv : v < 0x110000) : firstOctet v < 256 :=
  Nat.lt_of_lt_of_le (firstOctet_lt_mark hv) (mark_le (Nat.succ_le_succ (following_le v)))

theorem firstOctet_lt_firstOctet {v w : Nat} (hv : v < 0x110000) (h : following v < following w) :
    firstOctet v < firstOctet w :=
  calc firstOctet v < mark (following v + 1) := firstOctet_lt_mark hv
    _ ≤ mark (following w) := mark_le h
    _ ≤ firstOctet w := Nat.le_add_left _ _

theorem toNat_lt (c : Char) : c.toNat < 0x110000 := by
  rcases c.valid with h | h
  · exact Nat.lt_trans h (by decide)
  · exact h.2

theorem utf8EncodeChar_eq (c : Char) :
    String.utf8EncodeChar c = octets (mark (following c.toNat)) (following c.toNat) c.toNat := by
  have hc : c.val.toNat = c.toNat := rfl
  have hvalid := toNat_lt c
  simp only [String.utf8EncodeChar, following, hc]
  split
  · rfl
  · split
    · rw [Nat.mod_eq_of_lt (by omega : c.toNat / 64 < 0x20)]
      rfl
    · split
      · rw [Nat.mod_eq_of_lt (by omega : c.toNat / 4096 < 0x10)]
        simp [octets, mark, Nat.div_div_eq_div_mul]
      · rw [Nat.mod_eq_of_lt (by omega : c.toNat / 262144 < 0x08)]
        simp [octets, mark, Nat.div_div_eq_div_mul]

theorem utf8EncodeChar_eq_cons (c : Char) :
    ∃ r, String.utf8EncodeChar c = UInt8.ofNat (firstOctet c.toNat) :: r := by
  obtain ⟨r, hr⟩ := octets_eq_cons (mark (following c.toNat)) (following c.toNat) c.toNat
  exact ⟨r, (utf8EncodeChar_eq c).trans hr⟩

theorem firstLower_utf8EncodeChar {c d : Char} (h : c < d) :
    FirstLower (String.utf8EncodeChar c) (String.utf8EncodeChar d) := by
  have hlt : c.toNat < d.toNat := h
  rcases Nat.lt_or_eq_of_le (following_mono (Nat.le_of_lt hlt)) with hmore | hsame
  · obtain ⟨r, hr⟩ := utf8EncodeChar_eq_cons c
    obtain ⟨r', hr'⟩ := utf8EncodeChar_eq_cons d
    exact ⟨[], _, r, _, r', hr, hr',
      ofNat_lt (firstOctet_lt_firstOctet (toNat_lt c) hmore) (firstOctet_lt (toNat_lt d))⟩
  · rw [utf8EncodeChar_eq, utf8EncodeChar_eq, hsame]
    exact firstLower_octets hlt (firstOctet_lt (toNat_lt d))

theorem flatMap_lt_of_lt {l m : List Char} (h : l < m) :
    l.flatMap String.utf8EncodeChar < m.flatMap String.utf8EncodeChar := by
  induction h with
  | @nil d m =>
    obtain ⟨r, hr⟩ := utf8EncodeChar_eq_cons d
    rw [List.flatMap_nil, List.flatMap_cons, hr, List.cons_append]
    exact List.nil_lt_cons _ _
  | rel hc =>
    rw [List.flatMap_cons, List.flatMap_cons]
    exact ((firstLower_utf8EncodeChar hc).append _ _).lt
  | cons _ ih =>
    rw [List.flatMap_cons, List.flatMap_cons]
    exact List.append_left_lt ih

theorem encode_lt_of_lt {s t : String} (h : s < t) : encode s < encode t := by
  rw [encode_eq_flatMap, encode_eq_flatMap]
  exact flatMap_lt_of_lt h

theorem encode_lt_of_compare {s t : String} (h : compare s t = .lt) : encode s < encode t :=
  encode_lt_of_lt (compareOfLessAndEq_eq_lt.1 h)

end ElfFacts.Utf8
