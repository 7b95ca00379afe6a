import ElfFacts.Command.Inputs
import ElfFacts.Json.Printer
import ElfFacts.Reader.Elf

/-!
# Looking at one binary

An overview holds what a run would see of a binary: its header, the libraries that it needs and how
much there is to say about it.
-/
namespace ElfFacts

structure Overview where
  path : String
  name : String
  header : Header
  soname : Option String
  needed : List String
  symbols : Nat
  definedSymbols : Nat
  units : Nat
  entries : Nat
  deriving DecidableEq, Repr

namespace Header

def toJson (h : Header) : Json := .ofMembers
  [("class", .ofString h.binaryClass), ("data_encoding", .ofString h.dataEncoding),
    ("file_version", .ofString h.fileVersion), ("osabi", .ofString h.osabi),
    ("abi_version", .ofNat h.abiVersion.toNat), ("object_type", .ofString h.objectType),
    ("machine", .ofString h.machine), ("version", .ofString h.version)]

end Header

namespace Overview

def ofCorpus (c : Corpus) : Overview where
  path := c.pathText
  name := c.name
  header := c.header
  soname := c.soname
  needed := c.needed
  symbols := c.symbols.size
  definedSymbols := c.symbols.values.countP (·.defined)
  units := c.units.size
  entries := c.units.foldl (fun n u => n + u.entries.size) 0

def toJson (o : Overview) : Json := .ofMembers
  [("path", .ofString o.path), ("name", .ofString o.name), ("header", o.header.toJson),
    ("soname", .ofOption .ofString o.soname), ("needed", .ofStrings o.needed),
    ("symbols", .ofNat o.symbols), ("defined_symbols", .ofNat o.definedSymbols),
    ("compile_units", .ofNat o.units), ("debug_entries", .ofNat o.entries)]

def neededLines : List String → List String
  | [] => ["  Needed: (none)"]
  | needed => "  Needed:" :: needed.map ("    - " ++ ·)

def lines (o : Overview) : List String :=
  ["Corpus: " ++ o.path, "  Name: " ++ o.name, "  Class: " ++ o.header.binaryClass,
    "  Data encoding: " ++ o.header.dataEncoding,
    "  OS/ABI: " ++ o.header.osabi ++ " (version " ++ toString o.header.abiVersion.toNat ++ ")",
    "  Type: " ++ o.header.objectType, "  Machine: " ++ o.header.machine,
    "  Version: " ++ o.header.version, "  Soname: " ++ o.soname.getD "-"] ++
  neededLines o.needed ++
  ["  Symbols: " ++ toString o.symbols ++ " (" ++ toString o.definedSymbols ++ " defined)",
    "  Debug info: " ++ toString o.units ++ " compile units, " ++ toString o.entries ++ " entries"]

def text (o : Overview) : String := String.join (o.lines.map (· ++ "\n"))

end Overview

namespace Command

variable {m : Type → Type} [Monad m] [Host m]

def inspect (p : Path) (json : Bool) : m (Except CommandFault String) := do
  let p ← locate p
  match ← ElfReader.load p with
  | .error fault => return .error (.load p fault)
  | .ok c =>
    let o := Overview.ofCorpus c
    return .ok (if json then o.toJson.render ++ "\n" else o.text)

end Command

end ElfFacts
