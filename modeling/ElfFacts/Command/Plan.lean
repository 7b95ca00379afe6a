import ElfFacts.Command.Inputs
import ElfFacts.Manifest

/-!
# What a run is asked to do

The options of the command line and the manifest together make a request and say where the output
goes. Inputs in the manifest come before those on the command line.
-/
namespace ElfFacts

namespace Manifest

def check (m : Manifest) : Except CommandFault Unit :=
  if m.main = [] then .error .manifestWithoutMain
  else if m.main.any (·.octets = []) then .error .manifestEmptyMain
  else .ok ()

def read (p : Path) (contents : List UInt8) : Except CommandFault Manifest := do
  let m ←
    if isJson p then (parseJson? contents).elim (.error .manifestMalformedJson) .ok
    else (parseYaml? contents).elim (.error .manifestMalformedYaml) .ok
  m.check
  return m.resolve (p.parent?.getD ⟨[]⟩)

def load {m : Type → Type} [Monad m] [Host m] (p : Path) : m (Except CommandFault Manifest) := do
  match ← Host.read p with
  | .error _ => return .error (.manifestRead p)
  | .ok contents => return read p contents.data.toList

end Manifest

structure GenerateOptions where
  mains : List Path := []
  libraries : List Path := []
  compilers : List Path := []
  manifest : Option Path := none
  outDir : Option Path := none
  config : Option Path := none
  noLinker : Bool := false
  deriving DecidableEq, Repr, Inhabited

namespace Command

variable {m : Type → Type} [Monad m] [Host m]

def defaultOutDir : Path := .ofString "facts"

def loadManifest : Option Path → m (Except CommandFault Manifest)
  | none => return .ok {}
  | some p => do Manifest.load (← locate p)

def loadConfig : Option Path → m (Except CommandFault Config)
  | none => return .ok {}
  | some p => do Config.load (← locate p)

/-- The directory of the command line, or that of the manifest, or the usual one. -/
def outputDirectory (o : GenerateOptions) (manifest : Manifest) : m Path :=
  match o.outDir, manifest.outputDir with
  | some d, _ => locate d
  | none, some d => return d
  | none, none => locate defaultOutDir

def plan (o : GenerateOptions) : m (Except CommandFault (Request × Path)) := do
  match ← loadManifest o.manifest with
  | .error fault => return .error fault
  | .ok manifest =>
    let mains := manifest.main ++ (← locateAll o.mains)
    let libraries := manifest.libraries ++ (← locateAll o.libraries)
    let compilers := manifest.compilers ++ (← locateAll o.compilers)
    if mains = [] then return .error .noMainBinaries
    else return .ok (⟨mains, libraries, compilers⟩, ← outputDirectory o manifest)

end Command

end ElfFacts
