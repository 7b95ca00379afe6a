import ElfFacts.Elf.StringTable

/-!
# Symbol versions

A dynamic symbol has a version number. Definitions and needs say which name goes with it: a
definition by its first name, a need by the name next to the number.
-/
namespace ElfFacts.Elf

structure VersionTables where
  numbers : Option ByteArray
  definitions : Option (Nat × ByteArray)
  needs : Option (Nat × ByteArray)

def findSection (sections : List SectionHeader) (type : Nat) : Option SectionHeader :=
  sections.find? (·.type = type)

def VersionTables.read (i : Image) (sections : List SectionHeader) :
    Except Malformed VersionTables := do
  let contents (type : Nat) : Except Malformed (Option (Nat × ByteArray)) :=
    match findSection sections type with
    | none => .ok none
    | some s =>
      match i.window? s.offset s.size with
      | none => .error .versionTable
      | some b => .ok (some (s.info, b))
  return ⟨(← contents typeSymbolVersions).map (·.2), ← contents typeVersionDefinitions,
    ← contents typeVersionNeeds⟩

/-- The version number of a symbol; the top bit only hides it. -/
def VersionTables.number? (v : VersionTables) (i : Image) (symbol : Nat) : Option Nat :=
  match v.numbers with
  | none => none
  | some b => (Octets.nat? i.big b (2 * symbol) 2).map (· % 0x8000)

/-- The entries of a linked table, at most `count` of them; `read` gives an entry and the distance
to the next. An entry at distance zero from the next is the last that says anything new. -/
def chain {α : Type} (read : Nat → Option (α × Nat)) : (count fuel offset : Nat) → List α
  | _, 0, _ => []
  | count, fuel + 1, offset =>
    if count = 0 then []
    else
      match read offset with
      | none => []
      | some (a, 0) => [a]
      | some (a, next) => a :: chain read (count - 1) fuel (offset + next)

/-- Where the names of an entry begin. An entry whose names lie outside its table ends it. -/
def namesAt? (b : ByteArray) (offset first : Nat) : Option Nat :=
  if offset + first < b.size then some (offset + first) else none

structure VersionDefinition where
  number : Nat
  names : List Nat

def readDefinitions (i : Image) (count : Nat) (b : ByteArray) : List VersionDefinition :=
  let nat? (offset width : Nat) := Octets.nat? i.big b offset width
  let readName (offset : Nat) : Option (Nat × Nat) := do
    let name ← nat? offset 4
    return (name, ← nat? (offset + 4) 4)
  let readDefinition (offset : Nat) : Option (VersionDefinition × Nat) := do
    let number ← nat? (offset + 4) 2
    let names ← nat? (offset + 6) 2
    let first ← nat? (offset + 12) 4
    let next ← nat? (offset + 16) 4
    return (⟨number, chain readName names (b.size + 1) (← namesAt? b offset first)⟩, next)
  chain readDefinition count (b.size + 1) 0

structure VersionNeed where
  number : Nat
  name : Nat

def readNeeds (i : Image) (count : Nat) (b : ByteArray) : List VersionNeed :=
  let nat? (offset width : Nat) := Octets.nat? i.big b offset width
  let readNeed (offset : Nat) : Option (VersionNeed × Nat) := do
    let number ← nat? (offset + 6) 2
    let name ← nat? (offset + 8) 4
    let next ← nat? (offset + 12) 4
    return (⟨number, name⟩, next)
  let readFile (offset : Nat) : Option (List VersionNeed × Nat) := do
    let count ← nat? (offset + 2) 2
    let first ← nat? (offset + 8) 4
    let next ← nat? (offset + 12) 4
    return (chain readNeed count (b.size + 1) (← namesAt? b offset first), next)
  (chain readFile count (b.size + 1) 0).flatten

def VersionTables.nameOffset? (v : VersionTables) (i : Image) (number : Nat) : Option Nat :=
  match (v.definitions.elim [] fun d => readDefinitions i d.1 d.2).find? (·.number = number) with
  | some d => d.names.head?
  | none =>
    match (v.needs.elim [] fun d => readNeeds i d.1 d.2).find? (·.number = number) with
    | some n => some n.name
    | none => none

/-- The version of a dynamic symbol. Zero and one stand for no version. -/
def VersionTables.version? (v : VersionTables) (i : Image) (names : StringTable) (symbol : Nat) :
    Option String :=
  match v.number? i symbol with
  | none => none
  | some number => if number ≤ 1 then none else (v.nameOffset? i number).bind names.get?

end ElfFacts.Elf
