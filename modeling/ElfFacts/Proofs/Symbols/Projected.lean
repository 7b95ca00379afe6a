import ElfFacts.Proofs.Symbols.Facts
import ElfFacts.Proofs.Symbols.Name
import ElfFacts.Proofs.Text.Order

/-!
# What is told of a symbol table

The facts about the symbols of a binary are one group for each bare name that is kept, in the order
of the octets. The lowest of the keys with a bare name describes it, wherever the others are in the
table, and the versions of all of them are told, each once and in order.
-/
namespace ElfFacts

open SymbolName (Spells)

/-- Texts in the order of their octets, without repetition. -/
def Ascending (texts : List String) : Prop :=
  texts.Pairwise fun s t => Utf8.encode s < Utf8.encode t

theorem ascending_keys {β : Type} (m : Std.TreeMap String β) : Ascending m.keys :=
  m.ordered_keys.imp Utf8.encode_lt_of_compare

theorem ascending_toList (s : Std.TreeSet String) : Ascending s.toList :=
  s.ordered_toList.imp Utf8.encode_lt_of_compare

namespace Corpus

variable {c : Corpus} {needed : NeededSymbols} {n : String}

def Keeps (c : Corpus) (needed : NeededSymbols) (n : String) : Prop :=
  n ≠ "" ∧ needed.contains n = true ∧ ∃ key ∈ c.symbols, ∃ v, Spells key n v

/-- The key comes before the others with its bare name. -/
structure IsLowest (c : Corpus) (n key : String) : Prop where
  spelled : ∃ v, Spells key n v
  below : ∀ k ∈ c.symbols, (∃ v, Spells k n v) → k ≠ key → Utf8.encode key < Utf8.encode k

/-- A symbol with the bare name has the version: as its own, or else in its key. -/
def HasVersion (c : Corpus) (n v : String) : Prop :=
  ∃ key info w, c.symbols[key]? = some info ∧ Spells key n w ∧
    (info.version = some v ∨ info.version = none ∧ v = w ∧ v ≠ "")

/-- The facts are what there is to tell of a bare name. -/
inductive Tells (c : Corpus) (n : String) : List Fact → Prop where
  | group {key : String} {info : SymbolInfo} {versions : List String}
      (hinfo : c.symbols[key]? = some info) (hlowest : c.IsLowest n key)
      (hascending : Ascending versions) (hversions : ∀ v, v ∈ versions ↔ c.HasVersion n v) :
      Tells c n
        ([⟨"symbol", [.text n]⟩,
          ⟨"symbol_type", [.text c.pathText, .text n, .text info.type]⟩] ++
        versions.map (fun v => ⟨"symbol_version", [.text c.pathText, .text n, .text v]⟩) ++
        [⟨"symbol_binding", [.text c.pathText, .text n, .text info.binding]⟩,
          ⟨"symbol_visibility", [.text c.pathText, .text n, .text info.visibility]⟩,
          ⟨"symbol_definition", [.text c.pathText, .text n, .ofBool info.defined]⟩,
          ⟨"has_symbol", [.text c.pathText, .text n]⟩])

theorem keeps_iff : c.Keeps needed n ↔ SymbolGroups.Wanted needed n ∧ c.HasName n := by
  simp only [Keeps, SymbolGroups.Wanted, HasName, SymbolName.bare_eq_iff, and_assoc]

theorem exists_isLowest {info : SymbolInfo} (h : c.symbol? n = some info) :
    ∃ key, c.symbols[key]? = some info ∧ c.IsLowest n key := by
  obtain ⟨⟨key, _⟩, hfind, rfl⟩ := Option.map_eq_some_iff.1 h
  obtain ⟨hbare, before, after, hlist, hbefore⟩ := List.find?_eq_some_iff_append.1 hfind
  have hordered := Std.TreeMap.ordered_keys_toList (t := c.symbols)
  rw [hlist] at hordered
  have hafter := (List.pairwise_cons.1 (List.pairwise_append.1 hordered).2.1).1
  refine ⟨key, ?_, SymbolName.bare_eq_iff.1 (by simpa using hbare), fun k hk hspelled hne => ?_⟩
  · rw [← Std.TreeMap.mem_toList_iff_getElem?_eq_some, hlist]
    exact List.mem_append_right _ (List.mem_cons_self ..)
  · obtain ⟨other, hother⟩ :=
      Option.isSome_iff_exists.1 (Std.TreeMap.mem_iff_isSome_getElem?.1 hk)
    have hmem := Std.TreeMap.mem_toList_iff_getElem?_eq_some.2 hother
    rw [hlist] at hmem
    rcases List.mem_append.1 hmem with hb | hb
    · have hnot := hbefore _ hb
      simp [SymbolName.bare_eq_iff.2 hspelled] at hnot
    · rcases List.mem_cons.1 hb with he | hb
      · exact absurd (congrArg Prod.fst he) hne
      · exact Utf8.encode_lt_of_compare (hafter _ hb)

theorem hasVersion_iff {v : String} :
    c.HasVersion n v ↔ ∃ s ∈ c.symbols.toList, SymbolName.bare s.1 = n ∧
      SymbolGroup.versionOf s.1 s.2 = some v := by
  simp only [Prod.exists, Std.TreeMap.mem_toList_iff_getElem?_eq_some, SymbolGroup.versionOf]
  constructor
  · rintro ⟨key, info, w, hinfo, hspells, hversion⟩
    have hbare := SymbolName.bare_eq_iff.2 ⟨w, hspells⟩
    refine ⟨key, info, hinfo, hbare, ?_⟩
    rcases hversion with hown | ⟨hnone, rfl, hne⟩
    · rw [hown]
      rfl
    · rw [hnone]
      exact SymbolName.version?_eq_some_iff.2 ⟨hne, hbare.symm ▸ hspells⟩
  · rintro ⟨key, info, hinfo, rfl, hversion⟩
    cases hown : info.version with
    | some w =>
      rw [hown] at hversion
      obtain ⟨u, hspells⟩ := SymbolName.bare_eq_iff.1 (rfl : SymbolName.bare key = _)
      exact ⟨key, info, u, hinfo, hspells, .inl (hown.trans hversion)⟩
    | none =>
      rw [hown] at hversion
      obtain ⟨hne, hspells⟩ := SymbolName.version?_eq_some_iff.1 hversion
      exact ⟨key, info, v, hinfo, hspells, .inr ⟨hown, rfl, hne⟩⟩

theorem tells_of_group {g : SymbolGroup} (hg : (c.symbolGroups needed)[n]? = some g) :
    c.Tells n (g.facts c.pathText n) := by
  have hdescribes := SymbolGroups.describes_ofTable needed c.symbols
  obtain ⟨-, info, hinfo, heq⟩ := (exists_group_iff (· = g.info)).1 ⟨g, hg, rfl⟩
  obtain ⟨key, hkey, hlowest⟩ := exists_isLowest hinfo
  refine (Tells.group (heq ▸ hkey) hlowest (ascending_toList g.versions) fun v => ?_ :
    c.Tells n (g.facts c.pathText n))
  rw [Std.TreeSet.mem_toList, hasVersion_iff]
  exact hdescribes.versions n g hg v

theorem mem_keys_symbolGroups : n ∈ (c.symbolGroups needed).keys ↔ c.Keeps needed n := by
  have hgroup : (∃ g, (c.symbolGroups needed)[n]? = some g ∧ True) ↔ _ :=
    exists_group_iff fun _ => True
  simp only [and_true, exists_mem_symbol?_iff] at hgroup
  rw [Std.TreeMap.mem_keys, Std.TreeMap.mem_iff_isSome_getElem?, Option.isSome_iff_exists, hgroup,
    keeps_iff]

/-- The facts are one group for each name that is kept, in order, and nothing else. -/
theorem symbolFacts_groups (c : Corpus) (needed : NeededSymbols) :
    ∃ (names : List String) (told : String → List Fact),
      Ascending names ∧ (∀ n, n ∈ names ↔ c.Keeps needed n) ∧ (∀ n ∈ names, c.Tells n (told n)) ∧
      c.symbolFacts needed = names.flatMap told ∧ c.keptSymbols needed = names.length := by
  let groups := c.symbolGroups needed
  let told (n : String) : List Fact := (groups[n]?.map (·.facts c.pathText n)).getD []
  have htold {n : String} {g : SymbolGroup} (hg : groups[n]? = some g) :
      told n = g.facts c.pathText n := by
    simp only [told, hg, Option.map_some, Option.getD_some]
  refine ⟨groups.keys, told, ascending_keys groups, fun n => mem_keys_symbolGroups,
    fun n hn => ?_, ?_, Std.TreeMap.length_keys.symm⟩
  · obtain ⟨g, hg⟩ := Option.isSome_iff_exists.1
      (Std.TreeMap.mem_iff_isSome_getElem?.1 (Std.TreeMap.mem_keys.1 hn))
    rw [htold hg]
    exact tells_of_group hg
  · rw [← Std.TreeMap.map_fst_toList_eq_keys, List.flatMap_map]
    refine List.flatMap_congr fun x hx => ?_
    exact (htold (Std.TreeMap.mem_toList_iff_getElem?_eq_some.1 hx)).symm

end Corpus

end ElfFacts
