import ElfFacts.Elf.Dynamic
import ElfFacts.Elf.Versions
import ElfFacts.Symbols.Table
import ElfFacts.Text.Quoted

/-!
# What an ELF file says

Header, needed libraries and symbols of a file, in the words of a corpus.
-/
namespace ElfFacts.Elf

structure Symbol where
  name : Nat
  info : Nat
  other : Nat
  sectionIndex : Nat

def Symbol.width (i : Image) : Nat := if i.wide then 24 else 16

def Symbol.readAt (i : Image) (at_ : Nat) : Symbol :=
  if i.wide then ⟨i.nat at_ 4, i.nat (at_ + 4) 1, i.nat (at_ + 5) 1, i.nat (at_ + 6) 2⟩
  else ⟨i.nat at_ 4, i.nat (at_ + 12) 1, i.nat (at_ + 13) 1, i.nat (at_ + 14) 2⟩

/-- A symbol table lies inside the file, also an empty one. -/
def readSymbols (i : Image) (offset count : Nat) : Except Malformed (List Symbol) :=
  let width := Symbol.width i
  if (i.window? offset (count * width)).isNone then .error .symbolTable
  else .ok ((List.range count).map fun n => .readAt i (offset + n * width))

structure File where
  image : Image
  header : FileHeader
  sections : List SectionHeader
  sectionNames : StringTable
  soname : Option String
  needed : List String
  dynamicNames : StringTable
  dynamicSymbols : List Symbol
  names : StringTable
  symbols : List Symbol
  versions : VersionTables

/-- Relocation sections are not used, but have to lie inside the file. -/
def checkRelocations (i : Image) : List SectionHeader → Except Malformed Unit
  | [] => .ok ()
  | s :: rest =>
    if s.type = typeRelaRelocations ∨ s.type = typeRelRelocations then
      if !s.fits i.size then .error .sectionBounds
      else if s.size ≠ 0 ∧ (i.window? s.offset s.size).isNone then .error .relocations
      else checkRelocations i rest
    else checkRelocations i rest

/-- The last symbol section and its names. -/
def ordinarySymbols (i : Image) (sections : List SectionHeader) :
    Except Malformed (StringTable × List Symbol) :=
  match sections.reverse.find? (·.type = typeSymbols) with
  | none => .ok ({}, [])
  | some s => do
    let symbols ← readSymbols i s.offset (if s.entrySize = 0 then 0 else s.size / s.entrySize)
    return (← StringTable.ofSection i sections s.link, symbols)

def File.read (b : ByteArray) : Except Malformed File := do
  let (image, header) ← FileHeader.read b
  let segments ← header.programHeaders image
  let sections ← header.sectionHeaders image
  let sectionNames ← StringTable.ofSection image sections header.nameSection
  let (names, symbols) ← ordinarySymbols image sections
  let dynamic? ← Dynamic.read? image segments
  let (dynamicNames, soname, needed, dynamicSymbols) ← match dynamic? with
    | none => pure (({} : StringTable), none, [], [])
    | some d => do
      let dynamicNames ← d.strings image
      let count ← d.symbolCount image header.machine
      pure (dynamicNames, d.soname? dynamicNames, d.needed dynamicNames,
        ← readSymbols image (d.offset 6) count)
  checkRelocations image sections
  let versions ← VersionTables.read image sections
  return { image, header, sections, sectionNames, soname, needed, dynamicNames, dynamicSymbols,
           names, symbols, versions }

def className : Nat → String
  | 1 => "ELFCLASS32"
  | 2 => "ELFCLASS64"
  | n => "ELFCLASS_" ++ toString n

def encodingName : Nat → String
  | 1 => "ELFDATA2LSB"
  | 2 => "ELFDATA2MSB"
  | n => "ELFDATA_" ++ toString n

def versionName : Nat → String
  | 0 => "EV_NONE"
  | 1 => "EV_CURRENT"
  | n => "EV_" ++ toString n

def osabiName : Nat → String
  | 0 => "ELFOSABI_SYSV"
  | 1 => "ELFOSABI_HPUX"
  | 2 => "ELFOSABI_NETBSD"
  | 3 => "ELFOSABI_LINUX"
  | 6 => "ELFOSABI_SOLARIS"
  | 9 => "ELFOSABI_FREEBSD"
  | 97 => "ELFOSABI_ARM"
  | 255 => "ELFOSABI_STANDALONE"
  | n => "ELFOSABI_" ++ toString n

def typeName : Nat → String
  | 0 => "ET_NONE"
  | 1 => "ET_REL"
  | 2 => "ET_EXEC"
  | 3 => "ET_DYN"
  | 4 => "ET_CORE"
  | n => "ET_" ++ Text.hex n

def machineName : Nat → String
  | 3 => "EM_386"
  | 8 => "EM_MIPS"
  | 20 => "EM_PPC"
  | 21 => "EM_PPC64"
  | 22 => "EM_S390"
  | 40 => "EM_ARM"
  | 62 => "EM_X86_64"
  | 183 => "EM_AARCH64"
  | 243 => "EM_RISCV"
  | 258 => "EM_LOONGARCH"
  | n => "EM_" ++ toString n

def symbolTypeName : Nat → String
  | 0 => "STT_NOTYPE"
  | 1 => "STT_OBJECT"
  | 2 => "STT_FUNC"
  | 3 => "STT_SECTION"
  | 4 => "STT_FILE"
  | 5 => "STT_COMMON"
  | 6 => "STT_TLS"
  | 7 => "STT_NUM"
  | 10 => "STT_GNU_IFUNC"
  | _ => "STT_UNKNOWN_STT"

def bindingName : Nat → String
  | 0 => "STB_LOCAL"
  | 1 => "STB_GLOBAL"
  | 2 => "STB_WEAK"
  | 3 => "STB_NUM"
  | 10 => "STB_GNU_UNIQUE"
  | _ => "STB_UNKNOWN_STB"

def visibilityName : Nat → String
  | 0 => "STV_DEFAULT"
  | 1 => "STV_INTERNAL"
  | 2 => "STV_HIDDEN"
  | 3 => "STV_PROTECTED"
  | 4 => "STV_EXPORTED"
  | 5 => "STV_SINGLETON"
  | 6 => "STV_ELIMINATE"
  | _ => "STV_UNKNOWN_STV"

def Symbol.describe (s : Symbol) (version : Option String) : SymbolInfo where
  type := symbolTypeName (s.info % 16)
  binding := bindingName (s.info / 16)
  visibility := visibilityName (s.other % 8)
  version := version
  defined := s.sectionIndex ≠ 0

namespace File

def headerFields (f : File) : Header :=
  let ident (n : Nat) : Nat := (f.header.ident.get! n).toNat
  { binaryClass := className (ident 4)
    dataEncoding := encodingName (ident 5)
    fileVersion := versionName (ident 6)
    osabi := osabiName (ident 7)
    abiVersion := UInt64.ofNat (ident 8)
    objectType := typeName f.header.type
    machine := machineName f.header.machine
    version := versionName f.header.version }

def namedDynamic (f : File) : List (String × SymbolInfo) :=
  f.dynamicSymbols.zipIdx.filterMap fun (s, n) =>
    (f.dynamicNames.get? s.name).map fun name =>
      (name, s.describe (f.versions.version? f.image f.dynamicNames n))

def namedOrdinary (f : File) : List (String × SymbolInfo) :=
  f.symbols.filterMap fun s => (f.names.get? s.name).map fun name => (name, s.describe none)

def symbolTable (f : File) : SymbolTable := SymbolTable.join f.namedDynamic f.namedOrdinary

/-- The contents of the first section of a name that has contents. -/
def sectionData (f : File) (name : String) : ByteArray :=
  match f.sections.find? fun s =>
      s.type ≠ typeNoBits && f.sectionNames.get? s.name = some name with
  | none => .empty
  | some s => (Octets.slice? f.image.bytes s.offset s.size).getD .empty

end File

end ElfFacts.Elf
