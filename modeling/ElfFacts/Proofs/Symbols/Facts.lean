import ElfFacts.Proofs.Symbols.Groups

/-!
# The facts about the symbols of a binary

Which facts a binary has about a bare name is decided by its symbol table and by whether the name is
wanted: there are facts if the table has the name, they repeat the first entry under it, and every
version of an entry under it is told.
-/
namespace ElfFacts

open SymbolName (bare)

namespace SymbolGroup

/-- What is said about a symbol of a binary: predicates with the arguments that come after the path
and the name. -/
def statements (g : SymbolGroup) : List (String × List Argument) :=
  [("symbol_type", [.text g.info.type])] ++
    g.versions.toList.map (fun v => ("symbol_version", [.text v])) ++
    [("symbol_binding", [.text g.info.binding]), ("symbol_visibility", [.text g.info.visibility]),
      ("symbol_definition", [.ofBool g.info.defined]), ("has_symbol", [])]

theorem facts_eq (path n : String) (g : SymbolGroup) :
    g.facts path n = ⟨"symbol", [.text n]⟩ ::
      g.statements.map fun s => ⟨s.1, .text path :: .text n :: s.2⟩ := by
  simp [facts, statements, Function.comp_def]

end SymbolGroup

namespace NeededSymbols

theorem contains_ofList {names : List String} {n : String} :
    (ofList names).contains n = true ↔ n ∈ names := by
  simp [contains, ofList]

end NeededSymbols

namespace Corpus

variable {c : Corpus} {needed : NeededSymbols} {n : String}

def HasName (c : Corpus) (n : String) : Prop := ∃ key ∈ c.symbols, bare key = n

/-- The first symbol with a bare name, in the order of the full names. -/
def symbol? (c : Corpus) (n : String) : Option SymbolInfo :=
  SymbolGroups.first? c.symbols.toList n

theorem exists_mem_symbol?_iff : (∃ info, info ∈ c.symbol? n) ↔ c.HasName n := by
  have hfind : (∃ info, info ∈ c.symbol? n) ↔ ∃ s ∈ c.symbols.toList, bare s.1 = n := by
    simp only [Option.mem_def, ← Option.isSome_iff_exists, symbol?, SymbolGroups.first?,
      Option.isSome_map, List.find?_isSome, decide_eq_true_eq]
  rw [hfind]
  constructor
  · rintro ⟨s, hs, hb⟩
    have hget := Std.TreeMap.mem_toList_iff_getElem?_eq_some.1 hs
    exact ⟨s.1, Std.TreeMap.mem_iff_isSome_getElem?.2 (by rw [hget]; rfl), hb⟩
  · rintro ⟨key, hkey, hb⟩
    obtain ⟨info, hinfo⟩ := Option.isSome_iff_exists.1 (Std.TreeMap.mem_iff_isSome_getElem?.1 hkey)
    exact ⟨(key, info), Std.TreeMap.mem_toList_iff_getElem?_eq_some.2 hinfo, hb⟩

theorem mem_bareNames : n ∈ NeededSymbols.bareNames c ↔ n ≠ "" ∧ c.HasName n := by
  simp [NeededSymbols.bareNames, HasName, Std.TreeMap.mem_keys, and_comm]

theorem contains_ofMains {mains : List Corpus} :
    (NeededSymbols.ofMains mains).contains n = true ↔ n ≠ "" ∧ ∃ m ∈ mains, m.HasName n := by
  simp only [NeededSymbols.ofMains, NeededSymbols.contains_ofList, List.mem_flatMap, mem_bareNames]
  constructor
  · rintro ⟨m, hm, hn, hname⟩
    exact ⟨hn, m, hm, hname⟩
  · rintro ⟨hn, m, hm, hname⟩
    exact ⟨m, hm, hn, hname⟩

/-- A name has a group if it is wanted and there is a symbol with it, which the group repeats. -/
theorem exists_group_iff (P : SymbolInfo → Prop) :
    (∃ g, (c.symbolGroups needed)[n]? = some g ∧ P g.info) ↔
      SymbolGroups.Wanted needed n ∧ ∃ info ∈ c.symbol? n, P info := by
  have hinfo := (SymbolGroups.describes_ofTable needed c.symbols).info n
  have hmap : (∃ g, (c.symbolGroups needed)[n]? = some g ∧ P g.info) ↔
      ∃ info ∈ (c.symbolGroups needed)[n]?.map (·.info), P info := by
    constructor
    · rintro ⟨g, hg, hp⟩
      exact ⟨g.info, by rw [hg]; rfl, hp⟩
    · rintro ⟨info, hi, hp⟩
      obtain ⟨g, hg, rfl⟩ := Option.map_eq_some_iff.1 hi
      exact ⟨g, hg, hp⟩
  rw [hmap, symbolGroups, hinfo]
  by_cases hw : SymbolGroups.Wanted needed n
  · rw [if_pos hw, and_iff_right hw]
    rfl
  · simp [hw]

theorem mem_symbolFacts {f : Fact} :
    f ∈ c.symbolFacts needed ↔
      ∃ n g, (c.symbolGroups needed)[n]? = some g ∧ f ∈ SymbolGroup.facts c.pathText n g := by
  simp only [symbolFacts, List.mem_flatMap, Prod.exists,
    Std.TreeMap.mem_toList_iff_getElem?_eq_some]

theorem mem_symbolFacts_symbol :
    ⟨"symbol", [.text n]⟩ ∈ c.symbolFacts needed ↔ ∃ g, (c.symbolGroups needed)[n]? = some g := by
  rw [mem_symbolFacts]
  simp only [SymbolGroup.facts_eq, List.mem_cons, List.mem_map, Fact.mk.injEq]
  constructor
  · rintro ⟨m, g, hg, ⟨-, hm⟩ | ⟨s, -, -, hargs⟩⟩
    · cases hm
      exact ⟨g, hg⟩
    · cases hargs
  · rintro ⟨g, hg⟩
    exact ⟨n, g, hg, .inl ⟨True.intro, rfl⟩⟩

theorem mem_symbolFacts_about {predicate : String} {rest : List Argument} :
    ⟨predicate, .text c.pathText :: .text n :: rest⟩ ∈ c.symbolFacts needed ↔
      ∃ g, (c.symbolGroups needed)[n]? = some g ∧ (predicate, rest) ∈ g.statements := by
  rw [mem_symbolFacts]
  simp only [SymbolGroup.facts_eq, List.mem_cons, List.mem_map, Fact.mk.injEq]
  constructor
  · rintro ⟨m, g, hg, ⟨-, hargs⟩ | ⟨s, hs, rfl, hargs⟩⟩
    · cases hargs
    · cases hargs
      exact ⟨g, hg, hs⟩
  · rintro ⟨g, hg, hs⟩
    exact ⟨n, g, hg, .inr ⟨_, hs, rfl, rfl⟩⟩

theorem mem_symbolFacts_version {v : String} :
    ⟨"symbol_version", [.text c.pathText, .text n, .text v]⟩ ∈ c.symbolFacts needed ↔
      SymbolGroups.Wanted needed n ∧ ∃ key info, c.symbols[key]? = some info ∧ bare key = n ∧
        SymbolGroup.versionOf key info = some v := by
  have hdescribes := SymbolGroups.describes_ofTable needed c.symbols
  have hstated (g : SymbolGroup) :
      ("symbol_version", [Argument.text v]) ∈ g.statements ↔ v ∈ g.versions := by
    simp [SymbolGroup.statements]
  have hentries : (∃ s ∈ c.symbols.toList, bare s.1 = n ∧
      SymbolGroup.versionOf s.1 s.2 = some v) ↔ ∃ key info, c.symbols[key]? = some info ∧
        bare key = n ∧ SymbolGroup.versionOf key info = some v := by
    simp only [Prod.exists, Std.TreeMap.mem_toList_iff_getElem?_eq_some]
  rw [mem_symbolFacts_about, ← hentries]
  constructor
  · rintro ⟨g, hg, hv⟩
    have hwanted : SymbolGroups.Wanted needed n :=
      ((exists_group_iff fun _ => True).1 ⟨g, hg, True.intro⟩).1
    exact ⟨hwanted, (hdescribes.versions n g hg v).1 ((hstated g).1 hv)⟩
  · rintro ⟨hw, s, hs, hb, hv⟩
    cases hg : (c.symbolGroups needed)[n]? with
    | none => exact absurd hb (hdescribes.notMem hw hg s hs)
    | some g => exact ⟨g, rfl, (hstated g).2 ((hdescribes.versions n g hg v).2 ⟨s, hs, hb, hv⟩)⟩

end Corpus

end ElfFacts
