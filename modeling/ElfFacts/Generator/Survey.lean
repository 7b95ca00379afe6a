import ElfFacts.Files.Host
import ElfFacts.Generator.Documents

/-!
# Surveying the surroundings of a run

Before a run everything that it can ask for is looked up once: whether its inputs are files, what
they hold, what the linker says about the main binaries, and what the libraries found hold.
-/
namespace ElfFacts

/-- What has been looked up, by the exact spelling of the paths. -/
structure Survey where
  files : List Path := []
  present : List Path := []
  corpora : List (Path × Except ReaderFault Corpus) := []
  listings : List (Path × Except LinkerFault (List ResolvedLibrary)) := []

namespace Survey

/-- The surroundings as a survey has found them. What it does not mention is not there. -/
def surroundings (s : Survey) : Surroundings where
  isFile p := s.files.contains p
  present p := s.present.contains p
  load p := (s.corpora.lookup p).getD (.error (.io .missing))
  resolve p := (s.listings.lookup p).getD (.ok [])

variable {m : Type → Type} [Monad m] [Host m]

structure Means (m : Type → Type) where
  load : Path → m (Except ReaderFault Corpus)
  resolve : Path → m (Except LinkerFault (List ResolvedLibrary))

def addLoads (means : Means m) (s : Survey) : List Path → m Survey
  | [] => return s
  | p :: rest => do
    let c ← means.load p
    addLoads means { s with corpora := s.corpora ++ [(p, c)] } rest

/-- Asks about the binaries that could be read. -/
def addListings (means : Means m) (s : Survey) : List Path → m Survey
  | [] => return s
  | p :: rest => do
    match s.corpora.lookup p with
    | some (.ok c) =>
      let listing ← means.resolve c.path
      addListings means { s with listings := s.listings ++ [(c.path, listing)] } rest
    | _ => addListings means s rest

def addFiles (s : Survey) : List Path → m Survey
  | [] => return s
  | p :: rest => do
    match ← Host.kind p with
    | some .file => addFiles { s with files := s.files ++ [p], present := s.present ++ [p] } rest
    | some _ => addFiles { s with present := s.present ++ [p] } rest
    | none => addFiles s rest

def libraryPaths (s : Survey) : List Path :=
  (s.listings.flatMap fun l => ((l.2.toOption.getD []).map (·.path))).eraseDups

def addLibraries (means : Means m) (s : Survey) (mains : List Path) : m Survey := do
  let s ← addListings means s (Path.distinct mains)
  let libraries := s.libraryPaths.filter (!s.present.contains ·)
  let s ← addFiles s libraries
  addLoads means s (libraries.filter s.present.contains)

def hasRead (s : Survey) (paths : List Path) : Bool :=
  paths.all fun p => (s.corpora.lookup p).any (·.isOk)

/-- Looks up what a run on a request can ask for. The linker is not asked if the run fails anyway. -/
def take (means : Means m) (config : Config) (r : Request) : m Survey := do
  if r.mains = [] then return {}
  let s ← addFiles {} r.inputs
  if r.inputs.any (!s.files.contains ·) then return s
  let s ← addLoads means s r.inputs
  if config.resolveNeeded && s.hasRead r.inputs then addLibraries means s r.mains
  else return s

end Survey

end ElfFacts
