import ElfFacts.Binary.Octets

/-!
# The headers of an ELF image

An image is wide or narrow and has a byte order. Its header says where the program headers and the
section headers stand.
-/
namespace ElfFacts.Elf

inductive Malformed where
  | tooSmall
  | badMagic
  | badClass
  | badEncoding
  | programHeaders
  | sectionHeaders
  | sectionBounds
  | stringTable
  | dynamicSection
  | relocations
  | hashTable
  | symbolTable
  | versionTable
  deriving DecidableEq, Repr

namespace Malformed

def message : Malformed → String
  | .tooSmall => "the file is too small for a header"
  | .badMagic => "the file does not start with the magic number"
  | .badClass => "the class is neither 32 nor 64 bit"
  | .badEncoding => "the byte order is unknown"
  | .programHeaders => "the program headers do not fit into the file"
  | .sectionHeaders => "the section headers do not fit into the file"
  | .sectionBounds => "a section does not fit into the file"
  | .stringTable => "a string table is outside the file or is not text"
  | .dynamicSection => "the dynamic section does not fit into the file"
  | .relocations => "relocations do not fit into the file"
  | .hashTable => "a symbol hash table is damaged"
  | .symbolTable => "a symbol table does not fit into the file"
  | .versionTable => "a version table does not fit into the file"

end Malformed

structure Image where
  bytes : ByteArray
  wide : Bool
  big : Bool

namespace Image

def nat? (i : Image) (offset width : Nat) : Option Nat := Octets.nat? i.big i.bytes offset width

/-- Zero where the image ends; for fields that are known to be inside. -/
def nat (i : Image) (offset width : Nat) : Nat := (i.nat? offset width).getD 0

def size (i : Image) : Nat := i.bytes.size

/-- The octets from an offset on. An empty slice may stand at the very end of the image. -/
def window? (i : Image) (offset length : Nat) : Option ByteArray :=
  Octets.slice? i.bytes offset length

end Image

structure FileHeader where
  ident : ByteArray
  type : Nat
  machine : Nat
  version : Nat
  programOffset : Nat
  sectionOffset : Nat
  programCount : Nat
  sectionCount : Nat
  nameSection : Nat

structure ProgramHeader where
  type : Nat
  offset : Nat
  address : Nat
  fileSize : Nat
  memorySize : Nat

structure SectionHeader where
  name : Nat
  type : Nat
  address : Nat
  offset : Nat
  size : Nat
  link : Nat
  info : Nat
  entrySize : Nat

def magic : List UInt8 := [0x7F, 0x45, 0x4C, 0x46]

def FileHeader.read (b : ByteArray) : Except Malformed (Image × FileHeader) :=
  if b.size < 16 then .error .tooSmall
  else if (b.extract 0 4).data.toList ≠ magic then .error .badMagic
  else
    let fileClass := b.get! 4
    let encoding := b.get! 5
    if fileClass ≠ 1 ∧ fileClass ≠ 2 then .error .badClass
    else if encoding ≠ 1 ∧ encoding ≠ 2 then .error .badEncoding
    else
      let i : Image := ⟨b, fileClass = 2, encoding = 2⟩
      if b.size < (if i.wide then 64 else 52) then .error .tooSmall
      else
        let ident := b.extract 0 16
        if i.wide then
          .ok (i, ⟨ident, i.nat 16 2, i.nat 18 2, i.nat 20 4, i.nat 32 8, i.nat 40 8,
            i.nat 56 2, i.nat 60 2, i.nat 62 2⟩)
        else
          .ok (i, ⟨ident, i.nat 16 2, i.nat 18 2, i.nat 20 4, i.nat 28 4, i.nat 32 4,
            i.nat 44 2, i.nat 48 2, i.nat 50 2⟩)

def ProgramHeader.width (i : Image) : Nat := if i.wide then 56 else 32

def ProgramHeader.readAt (i : Image) (at_ : Nat) : ProgramHeader :=
  if i.wide then
    ⟨i.nat at_ 4, i.nat (at_ + 8) 8, i.nat (at_ + 16) 8, i.nat (at_ + 32) 8, i.nat (at_ + 40) 8⟩
  else
    ⟨i.nat at_ 4, i.nat (at_ + 4) 4, i.nat (at_ + 8) 4, i.nat (at_ + 16) 4, i.nat (at_ + 20) 4⟩

def FileHeader.programHeaders (h : FileHeader) (i : Image) : Except Malformed (List ProgramHeader) :=
  let width := ProgramHeader.width i
  if h.programCount = 0 then .ok []
  else if h.programOffset + h.programCount * width ≤ i.size then
    .ok ((List.range h.programCount).map fun n => .readAt i (h.programOffset + n * width))
  else .error .programHeaders

def SectionHeader.width (i : Image) : Nat := if i.wide then 64 else 40

def SectionHeader.readAt (i : Image) (at_ : Nat) : SectionHeader :=
  if i.wide then
    ⟨i.nat at_ 4, i.nat (at_ + 4) 4, i.nat (at_ + 16) 8, i.nat (at_ + 24) 8, i.nat (at_ + 32) 8,
      i.nat (at_ + 40) 4, i.nat (at_ + 44) 4, i.nat (at_ + 56) 8⟩
  else
    ⟨i.nat at_ 4, i.nat (at_ + 4) 4, i.nat (at_ + 12) 4, i.nat (at_ + 16) 4, i.nat (at_ + 20) 4,
      i.nat (at_ + 24) 4, i.nat (at_ + 28) 4, i.nat (at_ + 36) 4⟩

/-- When the header counts no sections, the size of the first section is their number. -/
def FileHeader.sectionHeaders (h : FileHeader) (i : Image) : Except Malformed (List SectionHeader) :=
  let width := SectionHeader.width i
  if h.sectionOffset = 0 then .ok []
  else if i.size < h.sectionOffset + width then .error .sectionHeaders
  else
    let first := SectionHeader.readAt i h.sectionOffset
    let count := if h.sectionCount = 0 then first.size else h.sectionCount
    if i.size / width < count ∨ i.size < h.sectionOffset + count * width then .error .sectionHeaders
    else
      .ok (first :: (List.range (count - 1)).map fun n =>
        .readAt i (h.sectionOffset + (n + 1) * width))

def typeSymbols : Nat := 2

def typeRelaRelocations : Nat := 4

def typeNoBits : Nat := 8

def typeRelRelocations : Nat := 9

def typeVersionDefinitions : Nat := 0x6FFFFFFD

def typeVersionNeeds : Nat := 0x6FFFFFFE

def typeSymbolVersions : Nat := 0x6FFFFFFF

/-- A section with contents lies inside the file, and its addresses do not wrap around. -/
def SectionHeader.fits (s : SectionHeader) (fileSize : Nat) : Bool :=
  s.type = typeNoBits || s.size = 0 ||
    (s.offset + s.size ≤ fileSize && s.address + s.size < UInt64.size)

end ElfFacts.Elf
