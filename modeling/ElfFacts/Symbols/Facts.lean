import ElfFacts.Corpus
import ElfFacts.Symbols.Name
import Std.Data.TreeSet

/-!
# Facts about symbols

Only symbols whose bare name occurs in a main binary are reported. All keys with one bare name are
one symbol: it is described by the first of them and has the versions of all.
-/
namespace ElfFacts

/-- The bare names of symbols that the main binaries have. -/
structure NeededSymbols where
  names : Std.TreeSet String := ∅

namespace NeededSymbols

def ofList (names : List String) : NeededSymbols := ⟨Std.TreeSet.ofList names⟩

def bareNames (c : Corpus) : List String :=
  (c.symbols.keys.map SymbolName.bare).filter (· ≠ "")

def ofMains (mains : List Corpus) : NeededSymbols := ofList (mains.flatMap bareNames)

def contains (n : NeededSymbols) (bare : String) : Bool := n.names.contains bare

def toList (n : NeededSymbols) : List String := n.names.toList

def size (n : NeededSymbols) : Nat := n.names.size

end NeededSymbols

structure SymbolGroup where
  info : SymbolInfo
  versions : Std.TreeSet String := ∅

namespace SymbolGroup

/-- The version of a table entry: its own, or else the one in its name. -/
def versionOf (name : String) (info : SymbolInfo) : Option String :=
  info.version <|> SymbolName.version? name

def addVersion (g : SymbolGroup) : Option String → SymbolGroup
  | none => g
  | some v => { g with versions := g.versions.insert v }

end SymbolGroup

abbrev SymbolGroups := Std.TreeMap String SymbolGroup

namespace SymbolGroups

def add (needed : NeededSymbols) (groups : SymbolGroups) (name : String) (info : SymbolInfo) :
    SymbolGroups :=
  let bare := SymbolName.bare name
  if bare ≠ "" ∧ needed.contains bare then
    groups.insert bare
      ((groups[bare]?.getD { info }).addVersion (SymbolGroup.versionOf name info))
  else groups

def ofTable (needed : NeededSymbols) (symbols : SymbolTable) : SymbolGroups :=
  symbols.toList.foldl (fun groups s => add needed groups s.1 s.2) ∅

end SymbolGroups

def SymbolGroup.facts (path name : String) (g : SymbolGroup) : List Fact :=
  let about (predicate value : String) : Fact := ⟨predicate, [.text path, .text name, .text value]⟩
  [⟨"symbol", [.text name]⟩, about "symbol_type" g.info.type] ++
    g.versions.toList.map (about "symbol_version") ++
    [about "symbol_binding" g.info.binding,
      about "symbol_visibility" g.info.visibility,
      ⟨"symbol_definition", [.text path, .text name, .ofBool g.info.defined]⟩,
      ⟨"has_symbol", [.text path, .text name]⟩]

namespace Corpus

def symbolGroups (c : Corpus) (needed : NeededSymbols) : SymbolGroups :=
  SymbolGroups.ofTable needed c.symbols

def symbolFacts (c : Corpus) (needed : NeededSymbols) : List Fact :=
  (c.symbolGroups needed).toList.flatMap fun g => g.2.facts c.pathText g.1

def keptSymbols (c : Corpus) (needed : NeededSymbols) : Nat := (c.symbolGroups needed).size

end Corpus

end ElfFacts
