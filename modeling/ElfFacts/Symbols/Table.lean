import ElfFacts.Corpus
import ElfFacts.Symbols.Name
import Std.Data.HashSet

/-!
# Joining two symbol lists

Dynamic symbols come first: of two with one name the later counts, and they hide ordinary symbols
with the same bare name. Of two ordinary symbols with one name the earlier counts.
-/
namespace ElfFacts.SymbolTable

def addDynamic (t : SymbolTable) (s : String × SymbolInfo) : SymbolTable :=
  if s.1 = "" then t else t.insert s.1 s.2

def addOrdinary (dynamic : Std.HashSet String) (t : SymbolTable) (s : String × SymbolInfo) :
    SymbolTable :=
  if s.1 = "" ∨ dynamic.contains (SymbolName.bare s.1) then t else t.insertIfNew s.1 s.2

def bareNames (t : SymbolTable) : Std.HashSet String :=
  Std.HashSet.ofList (t.keys.map SymbolName.bare)

def ofDynamic (dynamic : List (String × SymbolInfo)) : SymbolTable := dynamic.foldl addDynamic ∅

def join (dynamic ordinary : List (String × SymbolInfo)) : SymbolTable :=
  ordinary.foldl (addOrdinary (bareNames (ofDynamic dynamic))) (ofDynamic dynamic)

@[simp] theorem join_nil (dynamic : List (String × SymbolInfo)) :
    join dynamic [] = ofDynamic dynamic := rfl

end ElfFacts.SymbolTable
