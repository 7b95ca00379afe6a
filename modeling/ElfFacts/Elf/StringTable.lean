import ElfFacts.Elf.Image

/-!
# String tables

Texts that end in a zero octet, found by their offset. A text can start inside another one.
-/
namespace ElfFacts.Elf

structure StringTable where
  octets : ByteArray := .empty

namespace StringTable

/-- A table lies inside the file and holds well-formed text. -/
def read (i : Image) (offset length : Nat) : Except Malformed StringTable :=
  match Octets.slice? i.bytes offset length with
  | none => .error .stringTable
  | some octets => if octets.validateUTF8 then .ok ⟨octets⟩ else .error .stringTable

def endOf (t : StringTable) (offset : Nat) : Nat :=
  ((List.range (t.octets.size - offset)).find? fun n => t.octets.get! (offset + n) = 0).elim
    t.octets.size (offset + ·)

/-- The text from an offset on. The offset must not be inside a character. -/
def get? (t : StringTable) (offset : Nat) : Option String :=
  if offset < t.octets.size then
    String.fromUTF8? (t.octets.extract offset (t.endOf offset))
  else if offset = t.octets.size ∧ 0 < offset ∧ t.octets.get! (offset - 1) ≠ 0 then some ""
  else none

/-- The table that a section holds. A number that no section has stands for the empty table. -/
def ofSection (i : Image) (sections : List SectionHeader) (index : Nat) :
    Except Malformed StringTable :=
  let index := if index = 0xFFFF then (sections.head?.map (·.link)).getD 0 else index
  match sections[index]? with
  | none => .ok {}
  | some s => if s.fits i.size then read i s.offset s.size else .error .sectionBounds

end StringTable

end ElfFacts.Elf
