import ElfFacts.Config
import ElfFacts.Generator.Request
import ElfFacts.Linker.Query
import ElfFacts.Reader
import ElfFacts.Symbols.Facts
import ElfFacts.Walk.Worklist

/-!
# The documents of a run

A run loads every input, works out once what is to be said about each, and puts together a document
for every main binary: its marker, the symbols of libraries that it loads at run time, and the
facts about itself and about the context inputs.
-/
namespace ElfFacts

inductive RunFault where
  | missingInput (path : Path)
  | noMainBinaries
  | reader (path : Path) (fault : ReaderFault)
  | io (path : Path) (fault : Fault)
  deriving DecidableEq, Repr

namespace RunFault

def message : RunFault → String
  | .missingInput path => "Input binary not found at " ++ path.display
  | .noMainBinaries => "No main binaries were provided"
  | .reader path fault => "Failed to load corpus " ++ path.display ++ ": " ++ fault.message
  | .io path fault => "Failed to write facts to " ++ path.display ++ ": " ++ fault.message

end RunFault

structure Surroundings where
  isFile : Path → Bool
  present : Path → Bool
  load : Path → Except ReaderFault Corpus
  resolve : Path → Except LinkerFault (List ResolvedLibrary)

/-- What is said about one input, computed once and shared by all documents. -/
structure CorpusBlocks where
  metadata : Block
  symbols : Block
  debugInfo : Block

namespace Corpus

def metadataBlock (c : Corpus) : Block := ⟨"Corpus facts: " ++ c.pathText, c.metadata.toArray⟩

def symbolBlock (c : Corpus) (needed : NeededSymbols) : Block :=
  ⟨"Corpus symbols: " ++ c.pathText, (c.symbolFacts needed).toArray⟩

def debugBlock (c : Corpus) (facts : Array Fact) : Block :=
  ⟨"Debug information entries: " ++ c.pathText, facts⟩

def blocks (c : Corpus) (needed : NeededSymbols) (o : WalkOptions) (ledgers : Ledgers) :
    CorpusBlocks × Ledgers :=
  let walked := c.walkAll o { ledger := ledgers.ledger c.path }
  (⟨c.metadataBlock, c.symbolBlock needed, c.debugBlock walked.facts⟩,
    ledgers.put c.path walked.ledger)

end Corpus

abbrev PathTable (α : Type) := List (Path × α)

namespace PathTable

def get? {α : Type} (t : PathTable α) (p : Path) : Option α := (t.find? (·.1.same p)).map (·.2)

def has {α : Type} (t : PathTable α) (p : Path) : Bool := t.any (·.1.same p)

end PathTable

namespace Generator

def loadAll (s : Surroundings) : List Path → Except RunFault (PathTable Corpus)
  | [] => .ok []
  | p :: rest =>
    match s.load p with
    | .error fault => .error (.reader p fault)
    | .ok c => (loadAll s rest).map ((p, c) :: ·)

/-- The blocks of all inputs in order; the walk of each goes on from the ledgers of those before. -/
def allBlocks (needed : NeededSymbols) (o : WalkOptions) :
    Ledgers → PathTable Corpus → PathTable CorpusBlocks
  | _, [] => []
  | ledgers, (p, c) :: rest =>
    let (blocks, ledgers) := c.blocks needed o ledgers
    (p, blocks) :: allBlocks needed o ledgers rest

def markerBlock (main : Path) (c : Corpus) : Block :=
  ⟨"Main corpus: " ++ main.display, #[⟨"is_main_corpus", [.text c.pathText]⟩]⟩

/-- The libraries that the linker finds for a main binary, that it needs, that are there and that
are not inputs. -/
def auxiliaryPaths (s : Surroundings) (config : Config) (inputs : PathTable Corpus) (main : Corpus) :
    List Path :=
  if config.resolveNeeded then
    match s.resolve main.path with
    | .error _ => []
    | .ok libraries =>
      Path.distinct ((libraries.filter fun l =>
        main.needed.contains l.name && s.present l.path && !inputs.has l.path).map (·.path))
  else []

def auxiliaryBlock (needed : NeededSymbols) (p : Path) (c : Corpus) : Block :=
  ⟨"Needed library symbols: " ++ p.display, (c.symbolFacts needed).toArray⟩

/-- The block of a library, made when it is first met. A library that cannot be read has none. -/
def auxiliary (s : Surroundings) (needed : NeededSymbols) (known : PathTable Block) (p : Path) :
    Option Block × PathTable Block :=
  match known.get? p with
  | some b => (some b, known)
  | none =>
    match s.load p with
    | .error _ => (none, known)
    | .ok c => (some (auxiliaryBlock needed p c), known ++ [(p, auxiliaryBlock needed p c)])

def auxiliaries (s : Surroundings) (needed : NeededSymbols) :
    PathTable Block → List Path → List Block × PathTable Block
  | known, [] => ([], known)
  | known, p :: rest =>
    let (block, known) := auxiliary s needed known p
    let (blocks, known) := auxiliaries s needed known rest
    (block.toList ++ blocks, known)

def sections (blocks : PathTable CorpusBlocks) (members : List Path) : List Block :=
  let found := members.filterMap blocks.get?
  found.map (·.metadata) ++ found.map (·.symbols) ++ found.map (·.debugInfo)

structure Plan where
  corpora : PathTable Corpus
  needed : NeededSymbols
  blocks : PathTable CorpusBlocks
  context : List Path

def plan (config : Config) (r : Request) (corpora : PathTable Corpus) : Plan :=
  let needed := NeededSymbols.ofMains (r.mains.filterMap corpora.get?)
  { corpora, needed, context := r.context
    blocks := allBlocks needed config.walkOptions {} corpora }

def assemble (s : Surroundings) (config : Config) (plan : Plan) :
    PathTable Block → List Path → List Document
  | _, [] => []
  | known, main :: rest =>
    match plan.corpora.get? main with
    | none => assemble s config plan known rest
    | some c =>
      let (libraries, known) :=
        auxiliaries s plan.needed known (auxiliaryPaths s config plan.corpora c)
      { main, blocks := markerBlock main c :: (libraries ++
          sections plan.blocks (main :: plan.context)) } :: assemble s config plan known rest

/-- One document for every main binary, or the first fault: no main binary, an input that is not a
file, an input that cannot be read. -/
def documents (s : Surroundings) (config : Config) (r : Request) : Except RunFault (List Document) :=
  if r.mains = [] then .error .noMainBinaries
  else
    match r.inputs.find? fun p => !s.isFile p with
    | some p => .error (.missingInput p)
    | none =>
      match loadAll s r.inputs with
      | .error fault => .error fault
      | .ok corpora => .ok (assemble s config (plan config r corpora) [] (Path.distinct r.mains))

end Generator

end ElfFacts
