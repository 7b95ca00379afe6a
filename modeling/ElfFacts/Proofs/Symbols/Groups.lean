import ElfFacts.Symbols.Facts
import Mathlib.Data.List.Induction

/-!
# The symbols under one bare name

What is reported under a bare name comes from the table entries with that name: there is a group if
the name is wanted and some entry has it, the first such entry describes it, and its versions are
those of all such entries. `Describes` says so of a table that has been read so far.
-/
namespace ElfFacts

open SymbolName (bare)

namespace SymbolGroup

@[simp] theorem info_addVersion (g : SymbolGroup) (v : Option String) :
    (g.addVersion v).info = g.info := by
  cases v <;> rfl

theorem mem_versions_addVersion (g : SymbolGroup) (v : Option String) (w : String) :
    w ∈ (g.addVersion v).versions ↔ v = some w ∨ w ∈ g.versions := by
  cases v with
  | none => simp [addVersion]
  | some v => simp [addVersion]

end SymbolGroup

namespace SymbolGroups

variable {needed : NeededSymbols} {entries : List (String × SymbolInfo)} {groups : SymbolGroups}

def Wanted (needed : NeededSymbols) (n : String) : Prop := n ≠ "" ∧ needed.contains n = true

instance (needed : NeededSymbols) (n : String) : Decidable (Wanted needed n) :=
  inferInstanceAs (Decidable (_ ∧ _))

def first? (entries : List (String × SymbolInfo)) (n : String) : Option SymbolInfo :=
  (entries.find? fun s => bare s.1 = n).map (·.2)

theorem getElem?_add (groups : SymbolGroups) (s : String × SymbolInfo) (n : String) :
    (add needed groups s.1 s.2)[n]? =
      if bare s.1 = n ∧ Wanted needed n then
        some ((groups[n]?.getD { info := s.2 }).addVersion (SymbolGroup.versionOf s.1 s.2))
      else groups[n]? := by
  have hadd : add needed groups s.1 s.2 =
      if Wanted needed (bare s.1) then
        groups.insert (bare s.1) ((groups[bare s.1]?.getD { info := s.2 }).addVersion
          (SymbolGroup.versionOf s.1 s.2))
      else groups := rfl
  rw [hadd]
  by_cases hw : Wanted needed (bare s.1)
  · rw [if_pos hw, Std.TreeMap.getElem?_insert]
    by_cases hn : bare s.1 = n
    · subst hn
      simp [hw]
    · simp [hn]
  · rw [if_neg hw, if_neg]
    rintro ⟨rfl, h⟩
    exact hw h

/-- Groups that say what the entries say under each wanted name. -/
structure Describes (needed : NeededSymbols) (entries : List (String × SymbolInfo))
    (groups : SymbolGroups) : Prop where
  info : ∀ n, groups[n]?.map (·.info) = if Wanted needed n then first? entries n else none
  versions : ∀ n g, groups[n]? = some g → ∀ v, v ∈ g.versions ↔
    ∃ s ∈ entries, bare s.1 = n ∧ SymbolGroup.versionOf s.1 s.2 = some v

theorem first?_append (entries : List (String × SymbolInfo)) (s : String × SymbolInfo) (n : String) :
    first? (entries ++ [s]) n =
      (first? entries n).or (if bare s.1 = n then some s.2 else none) := by
  rw [first?, List.find?_append, Option.map_or]
  by_cases hn : bare s.1 = n <;> simp [first?, hn]

theorem Describes.notMem (h : Describes needed entries groups) {n : String}
    (hw : Wanted needed n) (hn : groups[n]? = none) : ∀ s ∈ entries, bare s.1 ≠ n := by
  intro s hs hb
  have hinfo := h.info n
  rw [hn, if_pos hw, Option.map_none, first?, eq_comm, Option.map_eq_none_iff,
    List.find?_eq_none] at hinfo
  exact hinfo s hs (by simpa using hb)

theorem Describes.add (h : Describes needed entries groups) (s : String × SymbolInfo) :
    Describes needed (entries ++ [s]) (add needed groups s.1 s.2) := by
  constructor
  · intro n
    have hinfo := h.info n
    rw [getElem?_add, first?_append]
    by_cases hw : Wanted needed n
    · rw [if_pos hw] at hinfo ⊢
      rw [← hinfo]
      by_cases hb : bare s.1 = n
      · cases groups[n]? <;> simp [hb, hw]
      · simp [hb]
    · rw [if_neg hw] at hinfo ⊢
      rw [if_neg fun hs => hw hs.2, hinfo]
  · intro n g hg v
    have hsplit : (∃ t ∈ entries ++ [s], bare t.1 = n ∧ SymbolGroup.versionOf t.1 t.2 = some v) ↔
        (bare s.1 = n ∧ SymbolGroup.versionOf s.1 s.2 = some v) ∨
          ∃ t ∈ entries, bare t.1 = n ∧ SymbolGroup.versionOf t.1 t.2 = some v := by
      simp [or_and_right, exists_or, or_comm]
    rw [hsplit]
    rw [getElem?_add] at hg
    split at hg
    · next hs =>
      obtain ⟨hb, hw⟩ := hs
      cases hg
      rw [SymbolGroup.mem_versions_addVersion, and_iff_right hb]
      apply or_congr_right
      cases hold : groups[n]? with
      | some g => exact h.versions n g hold v
      | none =>
        have hnone := h.notMem hw hold
        simp only [Option.getD_none, Std.TreeSet.not_mem_emptyc, false_iff]
        rintro ⟨t, ht, hb', -⟩
        exact hnone t ht hb'
    · next hs =>
      rw [h.versions n g hg v, or_iff_right]
      rintro ⟨hb, -⟩
      have hinfo := h.info n
      rw [hg, if_neg fun hw => hs ⟨hb, hw⟩] at hinfo
      cases hinfo

theorem describes_foldl (entries : List (String × SymbolInfo)) :
    Describes needed entries
      (entries.foldl (fun groups s => SymbolGroups.add needed groups s.1 s.2) ∅) := by
  induction entries using List.reverseRecOn with
  | nil =>
    constructor
    · intro n
      simp [first?]
    · intro n g hg
      simp at hg
  | append_singleton entries s ih =>
    rw [List.foldl_append]
    exact ih.add s

theorem describes_ofTable (needed : NeededSymbols) (t : SymbolTable) :
    Describes needed t.toList (ofTable needed t) := describes_foldl _

end SymbolGroups

end ElfFacts
