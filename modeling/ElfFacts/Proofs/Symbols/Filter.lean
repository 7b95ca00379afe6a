import ElfFacts.Generator.Documents
import ElfFacts.Proofs.Symbols.Facts

/-!
# Symbols that the main binaries have, too

A block about the symbols of a binary tells of exactly those names that some main binary has as well.
What it says of such a name is what the first symbol with the name says.
-/
namespace ElfFacts

/-- A name that a binary shares with some main binary. -/
def Shared (mains : List Corpus) (c : Corpus) (n : String) : Prop :=
  n ≠ "" ∧ c.HasName n ∧ ∃ m ∈ mains, m.HasName n

theorem Shared.of_mem {mains : List Corpus} {m : Corpus} {n : String} (hm : m ∈ mains) (hn : n ≠ "")
    (h : m.HasName n) : Shared mains m n := ⟨hn, h, m, hm, h⟩

/-- The block has facts about those symbols of the binary whose names are shared, and about no
others. -/
structure Filtered (mains : List Corpus) (c : Corpus) (b : Block) : Prop where
  symbol : ∀ n, ⟨"symbol", [.text n]⟩ ∈ b.facts ↔ Shared mains c n
  hasSymbol : ∀ n, ⟨"has_symbol", [.text c.pathText, .text n]⟩ ∈ b.facts ↔ Shared mains c n
  type : ∀ n x, ⟨"symbol_type", [.text c.pathText, .text n, x]⟩ ∈ b.facts ↔
    Shared mains c n ∧ ∃ info ∈ c.symbol? n, x = .text info.type
  binding : ∀ n x, ⟨"symbol_binding", [.text c.pathText, .text n, x]⟩ ∈ b.facts ↔
    Shared mains c n ∧ ∃ info ∈ c.symbol? n, x = .text info.binding
  visibility : ∀ n x, ⟨"symbol_visibility", [.text c.pathText, .text n, x]⟩ ∈ b.facts ↔
    Shared mains c n ∧ ∃ info ∈ c.symbol? n, x = .text info.visibility
  definition : ∀ n x, ⟨"symbol_definition", [.text c.pathText, .text n, x]⟩ ∈ b.facts ↔
    Shared mains c n ∧ ∃ info ∈ c.symbol? n, x = .ofBool info.defined

variable {mains : List Corpus} {c : Corpus} {n : String}

theorem exists_group_iff_shared (P : SymbolInfo → Prop) :
    (∃ g, (c.symbolGroups (.ofMains mains))[n]? = some g ∧ P g.info) ↔
      Shared mains c n ∧ ∃ info ∈ c.symbol? n, P info := by
  have hname (h : ∃ info ∈ c.symbol? n, P info) : c.HasName n := by
    obtain ⟨info, hi, -⟩ := h
    exact Corpus.exists_mem_symbol?_iff.1 ⟨info, hi⟩
  rw [Corpus.exists_group_iff, SymbolGroups.Wanted, Corpus.contains_ofMains, Shared]
  constructor
  · rintro ⟨⟨hn, -, hm⟩, hi⟩
    exact ⟨⟨hn, hname hi, hm⟩, hi⟩
  · rintro ⟨⟨hn, -, hm⟩, hi⟩
    exact ⟨⟨hn, hn, hm⟩, hi⟩

theorem exists_group_iff_shared_name :
    (∃ g, (c.symbolGroups (.ofMains mains))[n]? = some g) ↔ Shared mains c n := by
  have h : (∃ g, (c.symbolGroups (.ofMains mains))[n]? = some g ∧ True) ↔ _ :=
    exists_group_iff_shared fun _ => True
  simp only [and_true] at h
  rw [h, and_iff_left_iff_imp]
  exact fun hn => Corpus.exists_mem_symbol?_iff.2 hn.2.1

theorem mem_symbolFacts_value {predicate : String} {value : SymbolInfo → Argument}
    (h : ∀ (g : SymbolGroup) x, (predicate, [x]) ∈ g.statements ↔ x = value g.info) (x : Argument) :
    ⟨predicate, [.text c.pathText, .text n, x]⟩ ∈ c.symbolFacts (.ofMains mains) ↔
      Shared mains c n ∧ ∃ info ∈ c.symbol? n, x = value info := by
  rw [Corpus.mem_symbolFacts_about, ← exists_group_iff_shared fun info => x = value info]
  simp only [h]

theorem filtered_of_facts {b : Block} (hb : b.facts = (c.symbolFacts (.ofMains mains)).toArray) :
    Filtered mains c b where
  symbol n := by
    rw [hb, List.mem_toArray, Corpus.mem_symbolFacts_symbol, exists_group_iff_shared_name]
  hasSymbol n := by
    have hstated (g : SymbolGroup) : ("has_symbol", []) ∈ g.statements := by
      simp [SymbolGroup.statements]
    rw [hb, List.mem_toArray, Corpus.mem_symbolFacts_about, ← exists_group_iff_shared_name]
    simp only [hstated, and_true]
  type n x := by
    rw [hb, List.mem_toArray]
    exact mem_symbolFacts_value (fun g y => by simp [SymbolGroup.statements]) x
  binding n x := by
    rw [hb, List.mem_toArray]
    exact mem_symbolFacts_value (fun g y => by simp [SymbolGroup.statements]) x
  visibility n x := by
    rw [hb, List.mem_toArray]
    exact mem_symbolFacts_value (fun g y => by simp [SymbolGroup.statements]) x
  definition n x := by
    rw [hb, List.mem_toArray]
    exact mem_symbolFacts_value (fun g y => by simp [SymbolGroup.statements]) x

end ElfFacts
