import ElfFacts.Proofs.Symbols.Facts
import ElfFacts.Proofs.Symbols.Table
import ElfFacts.Reader.Elf

/-!
# Which versions of dynamic symbols are told

The dynamic table of a file can have several entries with one name, each with a version of its own.
Reading the file keeps the last of them, so what is told under a bare name are the versions of the
last entries of its full names. A version that only an earlier entry has is not told.
-/
namespace ElfFacts

open SymbolName (bare)

section LastIndex

variable {α : Type} {name? : α → Option String} {l : List α} {k : String}

def IsLast (name? : α → Option String) (l : List α) (k : String) (i : Nat) : Prop :=
  l[i]?.bind name? = some k ∧ ∀ j, i < j → l[j]?.bind name? ≠ some k

theorem IsLast.lt_length {i : Nat} (h : IsLast name? l k i) : i < l.length := by
  by_contra hi
  have hnone : l[i]? = none := List.getElem?_eq_none (Nat.le_of_not_lt hi)
  rw [IsLast, hnone] at h
  cases h.1

theorem getElem?_bind_append (s : α) (j : Nat) :
    (l ++ [s])[j]?.bind name? = if j = l.length then name? s else l[j]?.bind name? := by
  rcases Nat.lt_trichotomy j l.length with hlt | rfl | hgt
  · rw [List.getElem?_append_left hlt, if_neg (Nat.ne_of_lt hlt)]
  · rw [List.getElem?_concat_length, if_pos rfl]
    rfl
  · rw [if_neg (Nat.ne_of_gt hgt), List.getElem?_eq_none (Nat.le_of_lt hgt),
      List.getElem?_eq_none (by simpa using Nat.succ_le_of_lt hgt)]

theorem isLast_append (s : α) (i : Nat) :
    IsLast name? (l ++ [s]) k i ↔ if name? s = some k then i = l.length else IsLast name? l k i := by
  have hend (j : Nat) (hj : l.length ≤ j) : l[j]?.bind name? ≠ some k := by
    rw [List.getElem?_eq_none hj]
    simp
  simp only [IsLast, getElem?_bind_append]
  by_cases hs : name? s = some k
  · rw [if_pos hs]
    constructor
    · rintro ⟨hi, hlast⟩
      by_contra hne
      rw [if_neg hne] at hi
      rcases Nat.lt_or_gt_of_ne hne with hlt | hgt
      · exact hlast l.length hlt (by rwa [if_pos rfl])
      · exact hend i (Nat.le_of_lt hgt) hi
    · rintro rfl
      refine ⟨by rwa [if_pos rfl], fun j hj => ?_⟩
      rw [if_neg (Nat.ne_of_gt hj)]
      exact hend j (Nat.le_of_lt hj)
  · have hsame (j : Nat) : (if j = l.length then name? s else l[j]?.bind name?) = some k ↔
        l[j]?.bind name? = some k := by
      by_cases hj : j = l.length
      · rw [if_pos hj]
        exact iff_of_false hs (hend j (Nat.le_of_eq hj.symm))
      · rw [if_neg hj]
    simp only [if_neg hs, hsame, ne_eq]

theorem lastNamed_zipIdx (name? : α → Option String) (info : α → Nat → SymbolInfo) {x : SymbolInfo} :
    SymbolTable.lastNamed (l.zipIdx.filterMap fun (s, n) => (name? s).map fun name =>
      (name, info s n)) k = some x ↔
        ∃ i s, IsLast name? l k i ∧ l[i]? = some s ∧ x = info s i := by
  induction l using List.reverseRecOn with
  | nil =>
    simp [SymbolTable.lastNamed, SymbolTable.firstNamed]
  | append_singleton l s ih =>
    rw [List.zipIdx_append, List.filterMap_append]
    simp only [isLast_append]
    by_cases hs : name? s = some k
    · have hone : [s].zipIdx (0 + l.length) = [(s, l.length)] := by simp
      simp only [hone, List.filterMap_cons, hs, Option.map_some, List.filterMap_nil,
        SymbolTable.lastNamed_append, if_true, exists_and_left, exists_eq_left]
      simp [eq_comm]
    · have hold : (∃ i t, IsLast name? l k i ∧ (l ++ [s])[i]? = some t ∧ x = info t i) ↔
          ∃ i t, IsLast name? l k i ∧ l[i]? = some t ∧ x = info t i := by
        refine exists_congr fun i => exists_congr fun t => and_congr_right fun h => ?_
        rw [List.getElem?_append_left h.lt_length]
      simp only [if_neg hs]
      rw [hold, ← ih]
      cases hname : name? s with
      | none => simp [hname]
      | some other =>
        have hother : other ≠ k := fun he => hs (by rw [hname, he])
        simp [hname, SymbolTable.lastNamed_append, hother]

end LastIndex

namespace Elf.File

variable {f : File} {i : Nat} {name : String}

def dynamicName? (f : File) (i : Nat) : Option String :=
  f.dynamicSymbols[i]?.bind fun s => f.dynamicNames.get? s.name

def dynamicVersion? (f : File) (i : Nat) : Option String :=
  f.versions.version? f.image f.dynamicNames i

/-- An entry that no entry of the same name comes after. -/
def LastNamed (f : File) (name : String) (i : Nat) : Prop :=
  f.dynamicName? i = some name ∧ ∀ j, i < j → f.dynamicName? j ≠ some name

theorem lastNamed_namedDynamic {info : SymbolInfo} :
    SymbolTable.lastNamed f.namedDynamic name = some info ↔
      ∃ i s, f.LastNamed name i ∧ f.dynamicSymbols[i]? = some s ∧
        info = s.describe (f.dynamicVersion? i) :=
  lastNamed_zipIdx (fun s : Symbol => f.dynamicNames.get? s.name) fun s i =>
    s.describe (f.dynamicVersion? i)

theorem hasBare_namedDynamic (hname : f.dynamicName? i = some name) (hne : name ≠ "") :
    SymbolTable.HasBare f.namedDynamic (bare name) := by
  obtain ⟨s, hs, hget⟩ := Option.bind_eq_some_iff.1 hname
  refine ⟨(name, s.describe (f.dynamicVersion? i)), ?_, hne, rfl⟩
  rw [namedDynamic, List.mem_filterMap]
  refine ⟨(s, i), List.mk_mem_zipIdx_iff_getElem?.2 hs, ?_⟩
  exact congrArg (Option.map _) hget

theorem getElem?_symbolTable (hname : f.dynamicName? i = some name) (hne : name ≠ "")
    {key : String} (hkey : bare key = bare name) {info : SymbolInfo} :
    f.symbolTable[key]? = some info ↔ key ≠ "" ∧
      ∃ j s, f.LastNamed key j ∧ f.dynamicSymbols[j]? = some s ∧
        info = s.describe (f.dynamicVersion? j) := by
  rw [symbolTable, SymbolTable.getElem?_join, hkey, if_pos (hasBare_namedDynamic hname hne),
    ← lastNamed_namedDynamic]
  by_cases hk : key = "" <;> simp [hk]

end Elf.File

namespace ElfReader

variable {path : Path} {contents : ByteArray} {f : Elf.File} {c : Corpus} {i : Nat} {name : String}

theorem symbols_corpus (hread : Elf.File.read contents = .ok f)
    (hload : corpus path contents = .ok c) : c.symbols = f.symbolTable := by
  rw [corpus, hread] at hload
  cases hunits : f.debugSections.units with
  | error fault =>
    simp only [hunits] at hload
    cases hload
  | ok units =>
    simp only [hunits] at hload
    cases hload
    rfl

def versionFact (c : Corpus) (n v : String) : Fact :=
  ⟨"symbol_version", [.text c.pathText, .text n, .text v]⟩

/-- The versions that are told under the bare name of a dynamic symbol are those of the last entries
of its full names. So the version of an entry is told if no entry of the same name comes after it,
and otherwise only if such a last entry has it, too. -/
theorem symbol_version_iff (hread : Elf.File.read contents = .ok f)
    (hload : corpus path contents = .ok c) (hname : f.dynamicName? i = some name) (hne : name ≠ "")
    (needed : NeededSymbols) (v : String) :
    versionFact c (bare name) v ∈ c.symbolFacts needed ↔
      SymbolGroups.Wanted needed (bare name) ∧
        ∃ j other, f.LastNamed other j ∧ other ≠ "" ∧ bare other = bare name ∧
          (f.dynamicVersion? j <|> SymbolName.version? other) = some v := by
  rw [versionFact, Corpus.mem_symbolFacts_version, symbols_corpus hread hload]
  refine and_congr_right fun _ => ?_
  constructor
  · rintro ⟨key, info, hinfo, hkey, hv⟩
    obtain ⟨hk, j, s, hlast, -, rfl⟩ := (Elf.File.getElem?_symbolTable hname hne hkey).1 hinfo
    exact ⟨j, key, hlast, hk, hkey, hv⟩
  · rintro ⟨j, key, hlast, hk, hkey, hv⟩
    obtain ⟨s, hs, -⟩ := Option.bind_eq_some_iff.1 hlast.1
    exact ⟨key, s.describe (f.dynamicVersion? j),
      (Elf.File.getElem?_symbolTable hname hne hkey).2 ⟨hk, j, s, hlast, hs, rfl⟩, hkey, hv⟩

def littleEndian (width : Nat) (numbers : List Nat) : List UInt8 :=
  numbers.flatMap fun n => (List.range width).map fun i => UInt8.ofNat (n >>> (8 * i))

/-- A file for 32 bits whose dynamic table has a symbol `f` with version `V1`, which is hidden, and
behind it another `f` with version `V2`. -/
def twoVersions : ByteArray := ⟨Array.mk <|
  [0x7F, 0x45, 0x4C, 0x46, 1, 1, 1, 0] ++ littleEndian 8 [0] ++
    littleEndian 2 [3, 3] ++ littleEndian 4 [1, 0, 52, 288, 0] ++
    littleEndian 2 [52, 32, 2, 40, 3, 0] ++
  -- segments: the whole file and its dynamic part
  littleEndian 4 [1, 0, 0, 0, 408, 408, 0, 0] ++
    littleEndian 4 [2, 116, 116, 116, 40, 40, 0, 0] ++
  -- where the hash table, the names and the symbols are, and the size of the names
  littleEndian 4 [4, 156, 5, 212, 6, 164, 10, 9, 0, 0] ++
  -- the hash table has nothing but the number of symbols
  littleEndian 4 [0, 3] ++
  littleEndian 4 [0, 0, 0, 0] ++
    littleEndian 4 [1, 0, 0] ++ [0x12, 0] ++ littleEndian 2 [1] ++
    littleEndian 4 [1, 0, 0] ++ [0x12, 0] ++ littleEndian 2 [1] ++
  -- names: f, V1 and V2
  [0, 0x66, 0, 0x56, 0x31, 0, 0x56, 0x32, 0, 0, 0, 0] ++
  -- version numbers, and what they stand for
  littleEndian 2 [0, 0x8002, 3, 0] ++
    littleEndian 2 [1, 0, 2, 1] ++ littleEndian 4 [0, 20, 28, 3, 0] ++
    littleEndian 2 [1, 0, 3, 1] ++ littleEndian 4 [0, 20, 0, 6, 0] ++
  -- sections: none, version numbers and version definitions
  littleEndian 4 [0, 0, 0, 0, 0, 0, 0, 0, 0, 0] ++
    littleEndian 4 [0, 0x6FFFFFFF, 0, 0, 224, 6, 0, 0, 0, 0] ++
    littleEndian 4 [0, 0x6FFFFFFD, 0, 0, 232, 56, 0, 2, 0, 0]⟩

def EarlierLost (f : Elf.File) (c : Corpus) : Prop :=
  f.dynamicName? 1 = some "f" ∧ f.dynamicVersion? 1 = some "V1" ∧
    versionFact c "f" "V1" ∉ c.symbolFacts (.ofList ["f"]) ∧
    versionFact c "f" "V2" ∈ c.symbolFacts (.ofList ["f"])

instance (f : Elf.File) (c : Corpus) : Decidable (EarlierLost f c) :=
  inferInstanceAs (Decidable (_ ∧ _ ∧ _ ∧ _))

theorem exists_of_any {ε α : Type} {x : Except ε α} {p : α → Bool}
    (h : x.toOption.any p = true) : ∃ a, x = .ok a ∧ p a = true := by
  cases x with
  | error e => cases h
  | ok a => exact ⟨a, rfl, h⟩

set_option maxRecDepth 100000 in
theorem twoVersions_loads : ∃ f c, Elf.File.read twoVersions = .ok f ∧
    corpus ⟨[0x6C]⟩ twoVersions = .ok c ∧ EarlierLost f c := by
  obtain ⟨f, hread, h⟩ := exists_of_any (x := Elf.File.read twoVersions) (p := fun f =>
    (corpus ⟨[0x6C]⟩ twoVersions).toOption.any fun c => EarlierLost f c) (by decide +kernel)
  obtain ⟨c, hload, h⟩ := exists_of_any h
  exact ⟨f, c, hread, hload, of_decide_eq_true h⟩

theorem symbol_version_iff_twoVersions : ∃ f c, Elf.File.read twoVersions = .ok f ∧
    corpus ⟨[0x6C]⟩ twoVersions = .ok c ∧ f.dynamicName? 1 = some "f" ∧ "f" ≠ "" ∧
    (versionFact c (bare "f") "V1" ∈ c.symbolFacts (.ofList ["f"]) ↔
      SymbolGroups.Wanted (.ofList ["f"]) (bare "f") ∧
        ∃ j other, f.LastNamed other j ∧ other ≠ "" ∧ bare other = bare "f" ∧
          (f.dynamicVersion? j <|> SymbolName.version? other) = some "V1") := by
  obtain ⟨f, c, hread, hload, hname, -⟩ := twoVersions_loads
  have hne : "f" ≠ "" := by decide
  exact ⟨f, c, hread, hload, hname, hne, symbol_version_iff hread hload hname hne _ _⟩

/-- The version of the first `f` is not told, though the name is needed. -/
theorem symbol_version_lost : ∃ f c, Elf.File.read twoVersions = .ok f ∧
    corpus ⟨[0x6C]⟩ twoVersions = .ok c ∧ f.dynamicName? 1 = some "f" ∧
    f.dynamicVersion? 1 = some "V1" ∧ (NeededSymbols.ofList ["f"]).contains (bare "f") = true ∧
    versionFact c (bare "f") "V1" ∉ c.symbolFacts (.ofList ["f"]) := by
  obtain ⟨f, c, hread, hload, hname, hversion, hlost, -⟩ := twoVersions_loads
  have hbare : bare "f" = "f" := by decide
  refine ⟨f, c, hread, hload, hname, hversion, ?_, ?_⟩
  · rw [hbare, NeededSymbols.contains_ofList]
    exact List.mem_singleton_self "f"
  · rw [hbare]
    exact hlost

end ElfReader

end ElfFacts
