import ElfFacts.Proofs.Elf.Versions

/-!
# Dynamic symbols come before ordinary ones

A bare name belongs to the dynamic table of a file if an entry there carries it, and to the ordinary
table otherwise. The symbols under a bare name have the names that its table has, each described by
one entry: the last in the dynamic table, the first in the ordinary one.
-/
namespace ElfFacts

open SymbolName (bare)

theorem SymbolTable.exists_firstNamed_iff {entries : List (String × SymbolInfo)} {k : String} :
    (∃ info, firstNamed entries k = some info) ↔ ∃ s ∈ entries, s.1 = k := by
  simp only [← Option.isSome_iff_exists, firstNamed, Option.isSome_map, List.find?_isSome,
    decide_eq_true_eq]

section FirstIndex

variable {α : Type} {name? : α → Option String} {l : List α} {k : String}

def FirstAt (name? : α → Option String) (l : List α) (k : String) (i : Nat) : Prop :=
  l[i]?.bind name? = some k ∧ ∀ j, j < i → l[j]?.bind name? ≠ some k

theorem firstAt_cons_zero {s : α} : FirstAt name? (s :: l) k 0 ↔ name? s = some k :=
  ⟨And.left, fun hs => ⟨hs, fun j hj => absurd hj (Nat.not_lt_zero j)⟩⟩

theorem firstAt_cons_succ {s : α} {i : Nat} :
    FirstAt name? (s :: l) k (i + 1) ↔ name? s ≠ some k ∧ FirstAt name? l k i := by
  constructor
  · rintro ⟨hi, hfirst⟩
    exact ⟨hfirst 0 (Nat.succ_pos i), hi, fun j hj => hfirst (j + 1) (Nat.succ_lt_succ hj)⟩
  · rintro ⟨hs, hi, hfirst⟩
    refine ⟨hi, fun j hj => ?_⟩
    cases j with
    | zero => exact hs
    | succ j => exact hfirst j (Nat.lt_of_succ_lt_succ hj)

theorem firstNamed_filterMap (name? : α → Option String) (info : α → SymbolInfo) {x : SymbolInfo} :
    SymbolTable.firstNamed (l.filterMap fun s => (name? s).map fun name => (name, info s)) k =
      some x ↔ ∃ i s, FirstAt name? l k i ∧ l[i]? = some s ∧ x = info s := by
  induction l with
  | nil => simp [SymbolTable.firstNamed]
  | cons t l ih =>
    by_cases ht : name? t = some k
    · have hentry : SymbolTable.firstNamed ((t :: l).filterMap fun s =>
          (name? s).map fun name => (name, info s)) k = some (info t) := by
        simp [SymbolTable.firstNamed, ht]
      rw [hentry]
      constructor
      · rintro ⟨⟩
        exact ⟨0, t, firstAt_cons_zero.2 ht, rfl, rfl⟩
      · rintro ⟨i, s, hfirst, hs, rfl⟩
        cases i with
        | zero => rw [Option.some.inj hs]
        | succ i => exact absurd ht (firstAt_cons_succ.1 hfirst).1
    · have hentry : SymbolTable.firstNamed ((t :: l).filterMap fun s =>
          (name? s).map fun name => (name, info s)) k =
            SymbolTable.firstNamed (l.filterMap fun s => (name? s).map fun name => (name, info s)) k := by
        cases hname : name? t with
        | none => simp [hname]
        | some other =>
          have hother : other ≠ k := fun he => ht (by rw [hname, he])
          simp [SymbolTable.firstNamed, hname, hother]
      rw [hentry, ih]
      constructor
      · rintro ⟨i, s, hfirst, hs, hx⟩
        exact ⟨i + 1, s, firstAt_cons_succ.2 ⟨ht, hfirst⟩, hs, hx⟩
      · rintro ⟨i, s, hfirst, hs, hx⟩
        cases i with
        | zero => exact absurd (firstAt_cons_zero.1 hfirst) ht
        | succ i => exact ⟨i, s, (firstAt_cons_succ.1 hfirst).2, hs, hx⟩

end FirstIndex

namespace Elf.File

variable {f : File} {key : String}

def ordinaryName? (f : File) (i : Nat) : Option String :=
  f.symbols[i]?.bind fun s => f.names.get? s.name

/-- An entry that no entry of the same name comes before. -/
def FirstNamed (f : File) (name : String) (i : Nat) : Prop :=
  f.ordinaryName? i = some name ∧ ∀ j, j < i → f.ordinaryName? j ≠ some name

def HasDynamic (f : File) (n : String) : Prop :=
  ∃ i name, f.dynamicName? i = some name ∧ name ≠ "" ∧ bare name = n

theorem exists_mem_namedDynamic :
    (∃ x ∈ f.namedDynamic, x.1 = key) ↔ ∃ i, f.dynamicName? i = some key := by
  constructor
  · rintro ⟨x, hx, rfl⟩
    obtain ⟨⟨s, i⟩, hs, hx⟩ := List.mem_filterMap.1 hx
    obtain ⟨name, hname, rfl⟩ := Option.map_eq_some_iff.1 hx
    exact ⟨i, Option.bind_eq_some_iff.2 ⟨s, List.mk_mem_zipIdx_iff_getElem?.1 hs, hname⟩⟩
  · rintro ⟨i, hi⟩
    obtain ⟨s, hs, hname⟩ := Option.bind_eq_some_iff.1 hi
    exact ⟨_, List.mem_filterMap.2 ⟨(s, i), List.mk_mem_zipIdx_iff_getElem?.2 hs,
      congrArg (Option.map _) hname⟩, rfl⟩

theorem exists_mem_namedOrdinary :
    (∃ x ∈ f.namedOrdinary, x.1 = key) ↔ ∃ i, f.ordinaryName? i = some key := by
  constructor
  · rintro ⟨x, hx, rfl⟩
    obtain ⟨s, hs, hx⟩ := List.mem_filterMap.1 hx
    obtain ⟨name, hname, rfl⟩ := Option.map_eq_some_iff.1 hx
    obtain ⟨i, hi⟩ := List.mem_iff_getElem?.1 hs
    exact ⟨i, Option.bind_eq_some_iff.2 ⟨s, hi, hname⟩⟩
  · rintro ⟨i, hi⟩
    obtain ⟨s, hs, hname⟩ := Option.bind_eq_some_iff.1 hi
    exact ⟨_, List.mem_filterMap.2 ⟨s, List.mem_of_getElem? hs, congrArg (Option.map _) hname⟩, rfl⟩

theorem firstNamed_namedOrdinary {info : SymbolInfo} :
    SymbolTable.firstNamed f.namedOrdinary key = some info ↔
      ∃ i s, f.FirstNamed key i ∧ f.symbols[i]? = some s ∧ info = s.describe none :=
  firstNamed_filterMap (fun s : Symbol => f.names.get? s.name) fun s => s.describe none

theorem hasBare_namedDynamic_iff {n : String} :
    SymbolTable.HasBare f.namedDynamic n ↔ f.HasDynamic n := by
  constructor
  · rintro ⟨x, hx, hne, hb⟩
    obtain ⟨i, hi⟩ := exists_mem_namedDynamic.1 ⟨x, hx, rfl⟩
    exact ⟨i, x.1, hi, hne, hb⟩
  · rintro ⟨i, name, hi, hne, rfl⟩
    exact hasBare_namedDynamic hi hne

theorem getElem?_symbolTable_of_dynamic (h : f.HasDynamic (bare key)) :
    f.symbolTable[key]? = if key = "" then none else SymbolTable.lastNamed f.namedDynamic key := by
  rw [symbolTable, SymbolTable.getElem?_join, if_pos (hasBare_namedDynamic_iff.2 h)]

theorem getElem?_symbolTable_of_not_dynamic (h : ¬ f.HasDynamic (bare key)) :
    f.symbolTable[key]? = if key = "" then none else SymbolTable.firstNamed f.namedOrdinary key := by
  rw [symbolTable, SymbolTable.getElem?_join, if_neg (mt hasBare_namedDynamic_iff.1 h)]

section Entry

variable {entry : Option SymbolInfo} (h : f.symbolTable[key]? = if key = "" then none else entry)

include h

theorem getElem?_eq_some_iff_of_entry (info : SymbolInfo) :
    f.symbolTable[key]? = some info ↔ key ≠ "" ∧ entry = some info := by
  rw [h]
  by_cases hk : key = "" <;> simp [hk]

theorem mem_symbolTable_iff : key ∈ f.symbolTable ↔ key ≠ "" ∧ ∃ info, entry = some info := by
  rw [Std.TreeMap.mem_iff_isSome_getElem?, Option.isSome_iff_exists]
  simp only [getElem?_eq_some_iff_of_entry h, exists_and_left]

end Entry

theorem empty_notMem_symbolTable (f : File) : "" ∉ f.symbolTable := by
  rw [Std.TreeMap.mem_iff_isSome_getElem?, symbolTable, SymbolTable.getElem?_join, if_pos rfl]
  exact Bool.false_ne_true

/-- The table of a file by bare names. If some dynamic symbol carries a bare name, the symbols with it
have the names of the dynamic ones, and each is described by the last dynamic entry of its name, with
the version of that entry. Otherwise they have the names of the ordinary symbols, and each is
described by the first entry of its name, without a version. No symbol is without a name. -/
theorem symbolTable_precedence (f : File) :
    "" ∉ f.symbolTable ∧
    (∀ n, f.HasDynamic n → ∀ key, bare key = n →
      (key ∈ f.symbolTable ↔ key ≠ "" ∧ ∃ i, f.dynamicName? i = some key) ∧
      ∀ info, f.symbolTable[key]? = some info ↔ key ≠ "" ∧ ∃ i s, f.LastNamed key i ∧
        f.dynamicSymbols[i]? = some s ∧ info = s.describe (f.dynamicVersion? i)) ∧
    (∀ n, ¬ f.HasDynamic n → ∀ key, bare key = n →
      (key ∈ f.symbolTable ↔ key ≠ "" ∧ ∃ i, f.ordinaryName? i = some key) ∧
      ∀ info, f.symbolTable[key]? = some info ↔ key ≠ "" ∧ ∃ i s, f.FirstNamed key i ∧
        f.symbols[i]? = some s ∧ info = s.describe none) := by
  refine ⟨empty_notMem_symbolTable f, ?_, ?_⟩
  · rintro _ h key rfl
    have hentry := getElem?_symbolTable_of_dynamic h
    refine ⟨?_, fun info => ?_⟩
    · rw [mem_symbolTable_iff hentry, SymbolTable.exists_lastNamed_iff, exists_mem_namedDynamic]
    · rw [getElem?_eq_some_iff_of_entry hentry, lastNamed_namedDynamic]
  · rintro _ h key rfl
    have hentry := getElem?_symbolTable_of_not_dynamic h
    refine ⟨?_, fun info => ?_⟩
    · rw [mem_symbolTable_iff hentry, SymbolTable.exists_firstNamed_iff, exists_mem_namedOrdinary]
    · rw [getElem?_eq_some_iff_of_entry hentry, firstNamed_namedOrdinary]

end Elf.File

end ElfFacts
