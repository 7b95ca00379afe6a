/-!
# Versioned symbol names

A symbol name can carry a version after one or more `@`. The part before the first of them is the
bare name.
-/
namespace ElfFacts.SymbolName

def separator : Char := '@'

def bareChars (name : List Char) : List Char := name.takeWhile (· ≠ separator)

def versionChars (name : List Char) : List Char :=
  (name.dropWhile (· ≠ separator)).dropWhile (· = separator)

def bare (name : String) : String := String.ofList (bareChars name.toList)

def version? (name : String) : Option String :=
  let version := versionChars name.toList
  if version = [] then none else some (String.ofList version)

end ElfFacts.SymbolName
