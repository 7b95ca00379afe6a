import ElfFacts.Corpus
import ElfFacts.Digest.Sha256

/-!
# Identities

An entry is named in facts by a digest of its canonical text, the path of its binary, the offset
of its unit and the identity of its parent. The text that is digested stands apart from the digest.
-/
namespace ElfFacts

/-- Thirty-two hexadecimal digits. -/
structure Identity where
  digits : String
  deriving DecidableEq, Hashable, Repr

namespace Identity

def preimageChars (path : String) (unitOffset : UInt64) (e : DebugEntry)
    (parent : Option Identity) : List Char :=
  e.canonicalChars ++ path.toList ++ (toString unitOffset.toNat).toList ++
    (parent.map (·.digits.toList)).getD []

def preimage (path : String) (unitOffset : UInt64) (e : DebugEntry)
    (parent : Option Identity) : String :=
  String.ofList (preimageChars path unitOffset e parent)

/-- The first half of the digest of a text. -/
def ofText (s : String) : Identity :=
  ⟨Text.hexOctets ((Sha256.digest s.toUTF8).take 16)⟩

def ofEntry (path : String) (unitOffset : UInt64) (e : DebugEntry)
    (parent : Option Identity) : Identity :=
  ofText (preimage path unitOffset e parent)

def argument (i : Identity) : Argument := .text i.digits

/-- The identity of the last entry of a chain, every entry named below the one before it. -/
def ofChain (path : String) (unitOffset : UInt64) (chain : List DebugEntry) : Option Identity :=
  chain.foldl (fun parent e => some (ofEntry path unitOffset e parent)) none

end Identity

end ElfFacts
