import ElfFacts.Dwarf.Units
import ElfFacts.Elf.File
import ElfFacts.Files.Host
import ElfFacts.Reader

/-!
# Reading ELF files

The corpus of an ELF file has its header, libraries and symbols from the file itself and its units
from the debugging sections in it.
-/
namespace ElfFacts

namespace Elf.File

def debugSections (f : File) : Dwarf.Sections where
  big := f.image.big
  info := f.sectionData ".debug_info"
  abbreviations := f.sectionData ".debug_abbrev"
  lines := f.sectionData ".debug_line"
  strings := f.sectionData ".debug_str"
  lineStrings := f.sectionData ".debug_line_str"
  stringOffsets := f.sectionData ".debug_str_offsets"
  addresses := f.sectionData ".debug_addr"

end Elf.File

namespace ElfReader

def name : String := "elf"

def corpus (path : Path) (contents : ByteArray) : Except ReaderFault Corpus :=
  match Elf.File.read contents with
  | .error fault => .error (.parse fault.message)
  | .ok f =>
    match f.debugSections.units with
    | .error fault => .error (.dwarf fault.message)
    | .ok units => .ok
      { path, header := f.headerFields, soname := f.soname, needed := f.needed,
        symbols := f.symbolTable, units }

def load {m : Type → Type} [Monad m] [Host m] (path : Path) : m (Except ReaderFault Corpus) := do
  match ← Host.read path with
  | .error fault => return .error (.io fault)
  | .ok contents => return corpus path contents

end ElfReader

end ElfFacts
