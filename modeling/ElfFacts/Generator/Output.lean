import ElfFacts.Fact.Sheet
import ElfFacts.Files.Host
import ElfFacts.Generator.Layout
import ElfFacts.Generator.Survey

/-!
# Writing the documents

Every document goes to a file of its own below the output directory.
-/
namespace ElfFacts

structure FactFile where
  main : Path
  path : Path
  facts : Nat
  deriving DecidableEq, Repr

namespace Generator

variable {m : Type → Type} [Monad m] [Host m]

/-- A new file for facts is empty, and so is one that was there. -/
def createFile (file : Path) : m (Except RunFault Unit) := do
  match ← Host.write file .empty with
  | .error fault => return .error (.io file fault)
  | .ok () => return .ok ()

/-- The file stays empty until the document is complete. -/
def writeDocument (d : Document) (file : Path) : m (Except RunFault FactFile) := do
  match ← createFile file with
  | .error fault => return .error fault
  | .ok () =>
    let sheet := ({} : Sheet).write (.document d)
    match sheet.finish with
    | .error fault => return .error (.io file fault)
    | .ok content =>
      match ← Host.write file content with
      | .error fault => return .error (.io file fault)
      | .ok () => return .ok ⟨d.main, file, sheet.written⟩

def writeEach : List (Document × Path) → m (Except RunFault (List FactFile))
  | [] => return .ok []
  | (d, file) :: rest => do
    match ← writeDocument d file with
    | .error fault => return .error fault
    | .ok record =>
      match ← writeEach rest with
      | .error fault => return .error fault
      | .ok records => return .ok (record :: records)

def writeDocuments (documents : List Document) (layout : Layout) :
    m (Except RunFault (List FactFile)) := do
  match ← makeAllDirectories layout.outDir with
  | .error fault => return .error (.io layout.outDir fault)
  | .ok () => writeEach (documents.zip (layout.factFiles (documents.map (·.main))))

/-- Writes the documents of a run; a run that fails writes nothing. -/
def generate (s : Surroundings) (config : Config) (r : Request) (layout : Layout) :
    m (Except RunFault (List FactFile)) :=
  match documents s config r with
  | .error fault => return .error fault
  | .ok documents => writeDocuments documents layout

def run (means : Survey.Means m) (config : Config) (r : Request) (layout : Layout) :
    m (Except RunFault (List FactFile)) := do
  generate (← Survey.take means config r).surroundings config r layout

end Generator

end ElfFacts
