import ElfFacts.Digest.Sha256
import ElfFacts.Path
import ElfFacts.Text.Quoted

/-!
# Where fact files go

Every main binary gets a file in the output directory, named after the binary. Binaries of one name
are told apart by a digest of their paths.
-/
namespace ElfFacts

structure Layout where
  outDir : Path
  /-- Without the dot. -/
  extension : String
  deriving DecidableEq, Repr

namespace Layout

def summary (l : Layout) : Path := l.outDir.join (.ofString "run-summary.json")

def pathDigest (p : Path) : String :=
  Text.hexOctets ((Sha256.digest p.display.toUTF8).take 4)

def stem (mains : List Path) (main : Path) : String :=
  if 1 < mains.countP (·.label = main.label) then main.label ++ "-" ++ pathDigest main
  else main.label

def factFile (l : Layout) (mains : List Path) (main : Path) : Path :=
  l.outDir.join (.ofString (stem mains main ++ "." ++ l.extension))

def factFiles (l : Layout) (mains : List Path) : List Path := mains.map (l.factFile mains)

end Layout

end ElfFacts
