import ElfFacts.Command.Fault
import ElfFacts.Digest.Sha256
import ElfFacts.Files.Host
import ElfFacts.Text.Quoted

/-!
# What commands read

Paths as they are given on the command line, digests of binaries and the settings of a run.
-/
namespace ElfFacts

namespace Command

variable {m : Type → Type} [Monad m] [Host m]

/-- The place that a path leads to, or the path below the current directory where nothing is
there. -/
def locate (p : Path) : m Path := do
  if p.same (.ofString ".") then Host.currentDirectory
  else
    match ← Host.canonical p with
    | .ok place => return place
    | .error _ => return (← Host.currentDirectory).join p

def locateAll (paths : List Path) : m (List Path) := paths.mapM locate

/-- The digest of a file in hexadecimal digits. A directory can be opened but not read. -/
def fileDigest (p : Path) : m (Except CommandFault String) := do
  match ← Host.read p with
  | .ok contents => return .ok (Text.hexOctets (Sha256.digest contents))
  | .error .isDirectory => return .error (.hashRead p)
  | .error _ => return .error (.hashOpen p)

end Command

namespace Config

def load {m : Type → Type} [Monad m] [Host m] (p : Path) : m (Except CommandFault Config) := do
  match ← Host.read p with
  | .error _ => return .error (.configRead p)
  | .ok contents =>
    match Utf8.strict contents.data.toList with
    | none => return .error (.configRead p)
    | some cs =>
      match parse? cs with
      | none => return .error .configMalformed
      | some c => return .ok c

end Config

end ElfFacts
