import ElfFacts.Symbols.Table
import Mathlib.Data.List.Induction

/-!
# What a joined symbol table has

Joining keeps, for each name, one entry of one of the two lists. The dynamic list decides for a bare
name as soon as it has it, and of its entries with one full name the last one stays. Otherwise the
ordinary list decides, by its first entry.
-/
namespace ElfFacts.SymbolTable

open SymbolName (bare)

variable {dynamic ordinary : List (String × SymbolInfo)} {t : SymbolTable} {k : String}

def firstNamed (entries : List (String × SymbolInfo)) (k : String) : Option SymbolInfo :=
  (entries.find? fun s => s.1 = k).map (·.2)

def lastNamed (entries : List (String × SymbolInfo)) (k : String) : Option SymbolInfo :=
  firstNamed entries.reverse k

def HasBare (entries : List (String × SymbolInfo)) (n : String) : Prop :=
  ∃ s ∈ entries, s.1 ≠ "" ∧ bare s.1 = n

instance (entries : List (String × SymbolInfo)) (n : String) : Decidable (HasBare entries n) :=
  inferInstanceAs (Decidable (∃ s ∈ entries, s.1 ≠ "" ∧ bare s.1 = n))

theorem firstNamed_append (entries : List (String × SymbolInfo)) (s : String × SymbolInfo) :
    firstNamed (entries ++ [s]) k =
      (firstNamed entries k).or (if s.1 = k then some s.2 else none) := by
  rw [firstNamed, List.find?_append, Option.map_or]
  by_cases hk : s.1 = k <;> simp [firstNamed, hk]

theorem lastNamed_append (entries : List (String × SymbolInfo)) (s : String × SymbolInfo) :
    lastNamed (entries ++ [s]) k = if s.1 = k then some s.2 else lastNamed entries k := by
  rw [lastNamed, firstNamed, List.reverse_append, List.reverse_singleton, List.singleton_append,
    List.find?_cons]
  by_cases hk : s.1 = k <;> simp [lastNamed, firstNamed, hk]

theorem exists_lastNamed_iff :
    (∃ info, lastNamed dynamic k = some info) ↔ ∃ s ∈ dynamic, s.1 = k := by
  simp only [← Option.isSome_iff_exists, lastNamed, firstNamed, Option.isSome_map,
    List.find?_isSome, List.mem_reverse, decide_eq_true_eq]

theorem getElem?_addDynamic (s : String × SymbolInfo) :
    (addDynamic t s)[k]? = if s.1 ≠ "" ∧ s.1 = k then some s.2 else t[k]? := by
  rw [addDynamic]
  by_cases hs : s.1 = ""
  · simp [hs]
  · rw [if_neg hs, Std.TreeMap.getElem?_insert]
    simp [hs]

theorem getElem?_ofDynamic (dynamic : List (String × SymbolInfo)) (k : String) :
    (ofDynamic dynamic)[k]? = if k = "" then none else lastNamed dynamic k := by
  induction dynamic using List.reverseRecOn with
  | nil => simp [ofDynamic, lastNamed, firstNamed]
  | append_singleton dynamic s ih =>
    rw [ofDynamic, List.foldl_append, List.foldl_cons, List.foldl_nil, getElem?_addDynamic,
      lastNamed_append, ← ofDynamic, ih]
    by_cases hk : s.1 = k
    · subst hk
      by_cases hs : s.1 = "" <;> simp [hs]
    · simp [hk]

theorem contains_bareNames {n : String} :
    (bareNames (ofDynamic dynamic)).contains n = true ↔ HasBare dynamic n := by
  have hkeys : (bareNames (ofDynamic dynamic)).contains n = true ↔
      ∃ key, (∃ info, (ofDynamic dynamic)[key]? = some info) ∧ bare key = n := by
    simp only [bareNames, Std.HashSet.contains_ofList, List.contains_iff_mem, List.mem_map,
      Std.TreeMap.mem_keys, Std.TreeMap.mem_iff_isSome_getElem?, Option.isSome_iff_exists]
  rw [hkeys]
  constructor
  · rintro ⟨key, ⟨info, hinfo⟩, hb⟩
    rw [getElem?_ofDynamic] at hinfo
    split at hinfo
    · cases hinfo
    · next hkey =>
      obtain ⟨s, hs, rfl⟩ := exists_lastNamed_iff.1 ⟨info, hinfo⟩
      exact ⟨s, hs, hkey, hb⟩
  · rintro ⟨s, hs, hne, hb⟩
    refine ⟨s.1, ?_, hb⟩
    rw [getElem?_ofDynamic, if_neg hne]
    exact exists_lastNamed_iff.2 ⟨s, hs, rfl⟩

theorem getElem?_insertIfNew_or (t : SymbolTable) (s : String × SymbolInfo) :
    (t.insertIfNew s.1 s.2)[k]? = t[k]?.or (if s.1 = k then some s.2 else none) := by
  rw [Std.TreeMap.getElem?_insertIfNew]
  by_cases hk : s.1 = k
  · subst hk
    by_cases hm : s.1 ∈ t <;> simp [hm]
  · simp [hk]

theorem getElem?_addOrdinary (names : Std.HashSet String) (s : String × SymbolInfo) :
    (addOrdinary names t s)[k]? =
      if k = "" ∨ names.contains (bare k) = true then t[k]?
      else t[k]?.or (if s.1 = k then some s.2 else none) := by
  rw [addOrdinary]
  by_cases hk : s.1 = k
  · subst hk
    split
    · rfl
    · exact getElem?_insertIfNew_or t s
  · have hsame : (t.insertIfNew s.1 s.2)[k]? = t[k]? := by
      rw [getElem?_insertIfNew_or, if_neg hk, Option.or_none]
    rw [if_neg hk, Option.or_none, ite_self]
    split
    · rfl
    · exact hsame

theorem getElem?_join (dynamic ordinary : List (String × SymbolInfo)) (k : String) :
    (join dynamic ordinary)[k]? =
      if k = "" then none
      else if HasBare dynamic (bare k) then lastNamed dynamic k
      else firstNamed ordinary k := by
  induction ordinary using List.reverseRecOn with
  | nil =>
    rw [join_nil, getElem?_ofDynamic]
    by_cases hb : HasBare dynamic (bare k)
    · rw [if_pos hb]
    · rw [if_neg hb]
      by_cases hk : k = ""
      · rw [if_pos hk, if_pos hk]
      · rw [if_neg hk, if_neg hk]
        refine Option.eq_none_iff_forall_ne_some.2 fun info hinfo => hb ?_
        obtain ⟨s, hs, rfl⟩ := exists_lastNamed_iff.1 ⟨info, hinfo⟩
        exact ⟨s, hs, hk, rfl⟩
  | append_singleton ordinary s ih =>
    rw [join, List.foldl_append, List.foldl_cons, List.foldl_nil, getElem?_addOrdinary, ← join, ih,
      firstNamed_append]
    simp only [contains_bareNames]
    by_cases hk : k = ""
    · simp [hk]
    · by_cases hb : HasBare dynamic (bare k) <;> simp [hk, hb]

end ElfFacts.SymbolTable
