import ElfFacts.Text.Quoted
import Std.Data.String.ToInt
import Mathlib.Data.List.Basic

/-!
# Digits

Numbers and octets are written with sixteen characters, and a number can be read off its digits.
-/
namespace ElfFacts.Text

def alphabet : List Char := "0123456789abcdef".toList

def IsDigits (cs : List Char) : Prop := ∀ c ∈ cs, c ∈ alphabet

theorem IsDigits.notMem {cs : List Char} (h : IsDigits cs) {c : Char} (hc : c ∉ alphabet) : c ∉ cs :=
  fun hm => hc (h c hm)

theorem IsDigits.append {cs ds : List Char} (hc : IsDigits cs) (hd : IsDigits ds) :
    IsDigits (cs ++ ds) := by
  intro c hm
  rcases List.mem_append.1 hm with hm | hm
  · exact hc c hm
  · exact hd c hm

theorem isDigits_nil : IsDigits [] := by
  intro c hc
  cases hc

theorem digitChar_mem_alphabet : ∀ d < 16, Nat.digitChar d ∈ alphabet := by decide

theorem digitChar_inj : ∀ d < 16, ∀ d' < 16, Nat.digitChar d = Nat.digitChar d' → d = d' := by
  decide

theorem isDigits_toDigits {base : Nat} (hbase : 1 < base) (hle : base ≤ 16) (n : Nat) :
    IsDigits (Nat.toDigits base n) := by
  induction n using Nat.strongRecOn with
  | _ n ih =>
    rw [Nat.toDigits_eq_if hbase]
    have hlast (d : Nat) (hd : d < base) : IsDigits [Nat.digitChar d] := by
      intro c hc
      rw [List.mem_singleton.1 hc]
      exact digitChar_mem_alphabet d (by omega)
    by_cases hn : n < base
    · rw [if_pos hn]
      exact hlast n hn
    · rw [if_neg hn]
      have hdiv : n / base < n := Nat.div_lt_self (by omega) hbase
      exact (ih _ hdiv).append (hlast _ (Nat.mod_lt _ (by omega)))

theorem toDigits_ne_singleton {base n : Nat} (hbase : 1 < base) (hn : ¬ n < base) (c : Char) :
    Nat.toDigits base n ≠ [c] := by
  intro h
  rw [Nat.toDigits_eq_if hbase, if_neg hn] at h
  have hlength := congrArg List.length h
  rw [List.length_append, List.length_singleton, List.length_singleton] at hlength
  have hpos : 0 < (Nat.toDigits base (n / base)).length := Nat.length_toDigits_pos
  omega

theorem toDigits_inj {base m n : Nat} (hbase : 1 < base) (hle : base ≤ 16)
    (h : Nat.toDigits base m = Nat.toDigits base n) : m = n := by
  induction m using Nat.strongRecOn generalizing n with
  | _ m ih =>
    have hdigit (k : Nat) : k % base < 16 := Nat.lt_of_lt_of_le (Nat.mod_lt k (by omega)) hle
    by_cases hm : m < base
    · rw [Nat.toDigits_of_lt_base hm] at h
      by_cases hn : n < base
      · rw [Nat.toDigits_of_lt_base hn] at h
        exact digitChar_inj m (by omega) n (by omega) (List.singleton_inj.1 h)
      · exact absurd h.symm (toDigits_ne_singleton hbase hn _)
    · by_cases hn : n < base
      · rw [Nat.toDigits_of_lt_base hn] at h
        exact absurd h (toDigits_ne_singleton hbase hm _)
      · rw [Nat.toDigits_of_base_le (n := m) hbase (by omega),
          Nat.toDigits_of_base_le (n := n) hbase (by omega)] at h
        obtain ⟨hfront, hback⟩ := List.append_inj' h rfl
        have hdiv : m / base = n / base := ih _ (Nat.div_lt_self (by omega) hbase) hfront
        have hmod : m % base = n % base :=
          digitChar_inj _ (hdigit m) _ (hdigit n) (List.singleton_inj.1 hback)
        rw [← Nat.div_add_mod m base, ← Nat.div_add_mod n base, hdiv, hmod]

theorem isDigits_hexDigits (n : Nat) : IsDigits (hexDigits n) :=
  isDigits_toDigits (by decide) (by decide) n

theorem hexDigits_inj {m n : Nat} (h : hexDigits m = hexDigits n) : m = n :=
  toDigits_inj (by decide) (by decide) h

theorem toList_hex (n : Nat) : (hex n).toList = '0' :: 'x' :: hexDigits n := String.toList_ofList

theorem toList_hex_inj {m n : Nat} (h : (hex m).toList = (hex n).toList) : m = n := by
  rw [toList_hex, toList_hex, List.cons_inj_right, List.cons_inj_right] at h
  exact hexDigits_inj h

theorem toList_toString (n : Nat) : (toString n).toList = Nat.toDigits 10 n := Nat.toList_repr

theorem isDigits_toString (n : Nat) : IsDigits (toString n).toList := by
  rw [toList_toString]
  exact isDigits_toDigits (by decide) (by decide) n

theorem toList_toString_inj {m n : Nat} (h : (toString m).toList = (toString n).toList) : m = n := by
  rw [toList_toString, toList_toString] at h
  exact toDigits_inj (by decide) (by decide) h

theorem notMem_hex {c : Char} (hc : c ∉ 'x' :: alphabet) (n : Nat) : c ∉ (hex n).toList := by
  rw [List.mem_cons, not_or] at hc
  have hdigits : c ∉ hexDigits n := (isDigits_hexDigits n).notMem hc.2
  have hzero : c ≠ '0' := fun h => hc.2 (h ▸ by decide)
  simp [toList_hex, hdigits, hzero, hc.1]

theorem notMem_toString {c : Char} (hc : c ∉ '-' :: alphabet) (n : Int) :
    c ∉ (toString n).toList := by
  rw [List.mem_cons, not_or] at hc
  have hdigits (m : Nat) : c ∉ (toString m).toList := (isDigits_toString m).notMem hc.2
  cases n with
  | ofNat m => exact hdigits m
  | negSucc m =>
    have hminus : (toString (Int.negSucc m)).toList = '-' :: (toString (m + 1)).toList := by
      change ("-" ++ Nat.repr (m + 1)).toList = _
      rw [String.toList_append]
      rfl
    rw [hminus, List.mem_cons, not_or]
    exact ⟨hc.1, hdigits (m + 1)⟩

theorem length_toString_le (n : UInt64) : (toString n.toNat).toList.length ≤ 20 := by
  rw [toList_toString, Nat.length_toDigits_le_iff (by decide) (by decide)]
  exact Nat.lt_trans n.toNat_lt (by decide)

theorem length_hexOctets (octets : List UInt8) :
    (hexOctets octets).toList.length = 2 * octets.length := by
  rw [hexOctets, String.toList_ofList]
  induction octets with
  | nil => rfl
  | cons b octets ih =>
    rw [List.flatMap_cons, List.length_append, ih, List.length_cons]
    simp only [List.length_cons, List.length_nil]
    omega

theorem isDigits_hexOctets (octets : List UInt8) : IsDigits (hexOctets octets).toList := by
  rw [hexOctets, String.toList_ofList]
  intro c hc
  obtain ⟨b, -, hc⟩ := List.mem_flatMap.1 hc
  have hb := b.toNat_lt
  simp only [List.mem_cons, List.not_mem_nil, or_false] at hc
  rcases hc with rfl | rfl
  · exact digitChar_mem_alphabet _ (by omega)
  · exact digitChar_mem_alphabet _ (by omega)

end ElfFacts.Text
