import ElfFacts.Debug.Unit
import ElfFacts.Fact.Block
import Std.Data.TreeMap

/-!
# Loaded binaries

A corpus is what the facts are made from: the header of a binary, the libraries it needs, its
symbols by name and its debugging information.
-/
namespace ElfFacts

structure Header where
  binaryClass : String := ""
  dataEncoding : String := ""
  fileVersion : String := ""
  osabi : String := ""
  abiVersion : UInt64 := 0
  objectType : String := ""
  machine : String := ""
  version : String := ""
  deriving DecidableEq, Repr, Inhabited

structure SymbolInfo where
  type : String
  binding : String
  visibility : String
  version : Option String
  defined : Bool
  deriving DecidableEq, Repr, Inhabited

abbrev SymbolTable := Std.TreeMap String SymbolInfo

structure Corpus where
  path : Path
  header : Header := {}
  soname : Option String := none
  needed : List String := []
  symbols : SymbolTable := ∅
  units : Array DebugUnit := #[]
  deriving Inhabited

namespace Corpus

def pathText (c : Corpus) : String := c.path.display

def name (c : Corpus) : String := c.path.label

def metadata (c : Corpus) : List Fact :=
  let path := Argument.text c.pathText
  let about (predicate value : String) : Fact := ⟨predicate, [path, .text value]⟩
  [⟨"corpus", [path]⟩, about "corpus_name" c.name] ++
    c.soname.toList.map (about "corpus_soname") ++
    [about "corpus_class" c.header.binaryClass,
      about "corpus_data_encoding" c.header.dataEncoding,
      about "corpus_file_version" c.header.fileVersion,
      about "corpus_osabi" c.header.osabi,
      ⟨"corpus_abiversion", [path, .ofNat c.header.abiVersion.toNat]⟩,
      about "corpus_type" c.header.objectType,
      about "corpus_machine" c.header.machine,
      about "corpus_version" c.header.version]

end Corpus

end ElfFacts
