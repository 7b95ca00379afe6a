import ElfFacts.Corpus
import ElfFacts.Files.Fault

/-!
# Reading binaries

What can go wrong when a binary is read, and a reader that serves binaries known beforehand.
-/
namespace ElfFacts

inductive ReaderFault where
  | io (fault : Fault)
  | unsupported (text : String)
  | parse (reason : String)
  | dwarf (reason : String)
  deriving DecidableEq, Repr

namespace ReaderFault

def message : ReaderFault → String
  | .io fault => "I/O error: " ++ fault.message
  | .unsupported text => "Unsupported binary format: " ++ text
  | .parse reason => "Failed to parse binary: " ++ reason
  | .dwarf reason => "Failed to decode debug info: " ++ reason

end ReaderFault

/-- Serves corpora by their own paths; of two with the same path, the later. -/
structure MemoryReader where
  corpora : List Corpus := []

namespace MemoryReader

def name : String := "in-memory"

def load (r : MemoryReader) (p : Path) : Except ReaderFault Corpus :=
  match r.corpora.reverse.find? (·.path.same p) with
  | some c => .ok c
  | none => .error (.unsupported ("no corpus registered for " ++ p.display))

end MemoryReader

end ElfFacts
