import ElfFacts.Path
import ElfFacts.Text.Blank

/-!
# Listings of the dynamic linker

A line `name => /path (address)` says where the linker finds a library. Lines without an arrow or
without an absolute path say nothing.
-/
namespace ElfFacts

/-- A library by the name under which binaries need it. -/
structure ResolvedLibrary where
  name : String
  path : Path
  deriving DecidableEq, Repr

namespace Listing

def splitArrow : List Char → Option (List Char × List Char)
  | [] => none
  | '=' :: '>' :: r => some ([], r)
  | c :: r => (splitArrow r).map fun p => (c :: p.1, p.2)

def readLine (line : List Char) : Option ResolvedLibrary :=
  match splitArrow line with
  | none => none
  | some (before, after) =>
    match Text.trim before, Text.firstWord? after with
    | [], _ => none
    | name, some ('/' :: rest) =>
      some ⟨String.ofList name, .ofString (String.ofList ('/' :: rest))⟩
    | _, _ => none

def readChars (text : List Char) : List ResolvedLibrary := (Text.lines text).filterMap readLine

def read (text : String) : List ResolvedLibrary := readChars text.toList

end Listing

end ElfFacts
