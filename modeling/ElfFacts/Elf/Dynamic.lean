import ElfFacts.Elf.StringTable

/-!
# The dynamic section

What the dynamic linker reads: the libraries that are needed, where names and symbols are, and how
many symbols there are, which only hash tables and relocations tell.
-/
namespace ElfFacts.Elf

def segmentLoad : Nat := 1

def segmentDynamic : Nat := 2

def offsetOf? (segments : List ProgramHeader) (address : Nat) : Option Nat :=
  match segments.find? fun s =>
      s.type = segmentLoad && s.address ≤ address && address - s.address < s.memorySize with
  | none => none
  | some s =>
    let offset := s.offset + (address - s.address)
    if offset < UInt64.size then some offset else none

structure DynamicEntry where
  tag : Nat
  value : Nat

def uptoNull : List DynamicEntry → List DynamicEntry
  | [] => []
  | e :: rest => if e.tag = 0 then [e] else e :: uptoNull rest

structure Dynamic where
  entries : List DynamicEntry
  segments : List ProgramHeader

namespace Dynamic

def read? (i : Image) (segments : List ProgramHeader) : Except Malformed (Option Dynamic) :=
  match segments.find? (·.type = segmentDynamic) with
  | none => .ok none
  | some s =>
    let width := if i.wide then 8 else 4
    if s.fileSize ≠ 0 ∧ (i.window? s.offset s.fileSize).isNone then .error .dynamicSection
    else
      let entries := (List.range (s.fileSize / (2 * width))).map fun n =>
        ⟨i.nat (s.offset + n * (2 * width)) width, i.nat (s.offset + n * (2 * width) + width) width⟩
      .ok (some ⟨uptoNull entries, segments⟩)

/-- The value of the last entry with a tag. -/
def value? (d : Dynamic) (tag : Nat) : Option Nat :=
  (d.entries.reverse.find? (·.tag = tag)).map (·.value)

def value (d : Dynamic) (tag : Nat) : Nat := (d.value? tag).getD 0

def offset? (d : Dynamic) (tag : Nat) : Option Nat := (d.value? tag).bind (offsetOf? d.segments)

def offset (d : Dynamic) (tag : Nat) : Nat := (d.offset? tag).getD 0

def strings (d : Dynamic) (i : Image) : Except Malformed StringTable :=
  StringTable.read i (d.offset 5) (d.value 10)

def soname? (d : Dynamic) (names : StringTable) : Option String :=
  if d.value 14 = 0 then none else names.get? (d.value 14)

def needed (d : Dynamic) (names : StringTable) : List String :=
  (d.entries.filter (·.tag = 1)).filterMap fun e => names.get? e.value

end Dynamic

def highestRelocated (i : Image) (offset size : Nat) (addends : Bool) : Except Malformed Nat :=
  if size = 0 then .ok 0
  else if (i.window? offset size).isNone then .error .relocations
  else
    let width := if i.wide then 8 else 4
    let entry := (if addends then 3 else 2) * width
    .ok ((List.range (size / entry)).foldl (fun most n =>
      max most (i.nat (offset + n * entry + width) width >>> (if i.wide then 32 else 8))) 0)

/-- The end of the chain that starts at the given symbol. The fuel is the size of the file. -/
def chainEnd (i : Image) : (fuel offset symbol : Nat) → Except Malformed Nat
  | 0, _, _ => .error .hashTable
  | fuel + 1, offset, symbol =>
    match i.nat? offset 4 with
    | none => .error .hashTable
    | some hash => if hash % 2 = 1 then .ok (symbol + 1) else chainEnd i fuel (offset + 4) (symbol + 1)

/-- The number of symbols by a hash table with a bloom filter: the last chain ends at the last
symbol. -/
def countByChains (i : Image) (offset : Nat) : Except Malformed Nat :=
  match i.nat? offset 4, i.nat? (offset + 4) 4, i.nat? (offset + 8) 4 with
  | some buckets, some first, some bloom =>
    if buckets = 0 ∨ first = 0 ∨ bloom = 0 then .error .hashTable
    else
      let start := offset + 16 + bloom * (if i.wide then 8 else 4)
      if i.size < start + buckets * 4 then .error .hashTable
      else
        let last := (List.range buckets).foldl (fun most n => max most (i.nat (start + n * 4) 4)) 0
        if last < first then .ok 0
        else chainEnd i i.size (start + buckets * 4 + (last - first) * 4) last
  | _, _, _ => .error .hashTable

/-- The number of symbols by a plain hash table. Two machines write wide numbers there. -/
def countByTable (i : Image) (machine offset : Nat) : Except Malformed Nat :=
  let width := if (machine = 22 ∨ machine = 41) ∧ i.wide then 8 else 4
  match i.nat? (offset + 4) width with
  | none => .error .hashTable
  | some n => .ok n

namespace Dynamic

/-- The number of symbols: by a hash table, and at least as many as relocations speak of. -/
def symbolCount (d : Dynamic) (i : Image) (machine : Nat) : Except Malformed Nat := do
  let withAddends ← highestRelocated i (d.offset 7) (d.value 8) true
  let withoutAddends ← highestRelocated i (d.offset 17) (d.value 18) false
  let procedures ← highestRelocated i (d.offset 23) (d.value 2) (d.value 20 = 7)
  let counted ← match d.offset? 0x6FFFFEF5, d.offset? 4 with
    | some offset, _ => countByChains i offset
    | none, some offset => countByTable i machine offset
    | none, none => .ok 0
  let highest := max withAddends (max withoutAddends procedures)
  return if highest = 0 then counted else max counted (highest + 1)

end Dynamic

end ElfFacts.Elf
