import ElfFacts.Command.Plan
import ElfFacts.Generator.Output
import ElfFacts.Reader.Elf

/-!
# Generating facts

A run writes a fact file for every main binary and a summary beside them, and tells what it wrote.
-/
namespace ElfFacts

structure Environment where
  linker : Option Path := none
  logFormat : Option Path := none

structure MainSummary where
  path : String
  digest : String
  factFile : String
  facts : Nat
  deriving DecidableEq, Repr

structure RunSummary where
  startedAt : String
  finishedAt : String
  reader : String
  linker : String
  libraries : List String
  compilers : List String
  mains : List MainSummary
  deriving DecidableEq, Repr

namespace MainSummary

def toJson (s : MainSummary) : Json := .ofMembers
  [("path", .ofString s.path), ("sha256", .ofString s.digest), ("fact_file", .ofString s.factFile),
    ("facts", .ofNat s.facts)]

def line (s : MainSummary) : String :=
  "  " ++ s.path ++ " -> " ++ s.factFile ++ " (" ++ toString s.facts ++ " facts)\n"

end MainSummary

namespace RunSummary

def toJson (s : RunSummary) : Json := .ofMembers
  [("generator_version", .ofString libraryVersion), ("started_at", .ofString s.startedAt),
    ("finished_at", .ofString s.finishedAt), ("reader", .ofString s.reader),
    ("linker", .ofString s.linker), ("libraries", .ofStrings s.libraries),
    ("compilers", .ofStrings s.compilers), ("mains", .list (s.mains.map MainSummary.toJson))]

def report (s : RunSummary) (path : Path) : String :=
  "Generated ABI facts:\n" ++ String.join (s.mains.map MainSummary.line) ++
    "  Summary: " ++ path.display ++ "\n"

end RunSummary

namespace Command

variable {m : Type → Type} [Monad m] [Host m]

/-- The linker is not asked if the command line or the settings say so. -/
def linkerQuery (o : GenerateOptions) (config : Config) (environment : Environment) : LinkerQuery :=
  if o.noLinker || !config.resolveNeeded then .none
  else .program (LinkerQuery.programPath (config.lddPath.map Path.ofString) environment.linker)

def summarize (f : FactFile) : m (Except CommandFault MainSummary) := do
  match ← fileDigest f.main with
  | .error fault => return .error fault
  | .ok digest => return .ok ⟨f.main.display, digest, f.path.display, f.facts⟩

def summarizeAll : List FactFile → m (Except CommandFault (List MainSummary))
  | [] => return .ok []
  | f :: rest => do
    match ← summarize f with
    | .error fault => return .error fault
    | .ok s =>
      match ← summarizeAll rest with
      | .error fault => return .error fault
      | .ok summaries => return .ok (s :: summaries)

def finish (startedAt : String) (q : LinkerQuery) (r : Request) (layout : Layout)
    (files : List FactFile) : m (Except CommandFault String) := do
  let finishedAt ← Host.now
  match ← summarizeAll files with
  | .error fault => return .error fault
  | .ok mains =>
    let summary : RunSummary :=
      { startedAt, finishedAt, reader := ElfReader.name, linker := q.name,
        libraries := r.libraries.map Path.display, compilers := r.compilers.map Path.display, mains }
    match ← Host.write layout.summary summary.toJson.render.toUTF8 with
    | .error _ => return .error (.summaryWrite layout.summary)
    | .ok () => return .ok (summary.report layout.summary)

def generate (o : GenerateOptions) (environment : Environment) : m (Except CommandFault String) := do
  let startedAt ← Host.now
  match ← loadConfig o.config with
  | .error fault => return .error fault
  | .ok config =>
    match ← plan o with
    | .error fault => return .error fault
    | .ok (r, outDir) =>
      let layout : Layout := ⟨outDir, config.extension⟩
      let query := linkerQuery o config environment
      match ← Generator.run ⟨ElfReader.load, query.resolve⟩ config r layout with
      | .error fault => return .error (.generation fault)
      | .ok files => finish startedAt query r layout files

end Command

end ElfFacts
