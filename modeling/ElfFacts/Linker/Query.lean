import ElfFacts.Files.Host
import ElfFacts.Linker.Listing
import ElfFacts.Signal
import ElfFacts.Text.Utf8

/-!
# Asking the dynamic linker

A query tells which libraries a binary loads. It can answer nothing, answer from a table, or run a
program and read its listing.
-/
namespace ElfFacts

inductive LinkerFault where
  | spawn (text : String)
  | failed (text : String)
  deriving DecidableEq, Repr

namespace LinkerFault

def message : LinkerFault → String
  | .spawn text => "Failed to spawn dynamic linker query: " ++ text
  | .failed text => "Dynamic linker query failed: " ++ text

end LinkerFault

namespace ExitStatus

def text : ExitStatus → String
  | .code n => "exit status: " ++ toString n
  | .signal n =>
    match Signal.name? n with
    | some name => "signal: " ++ toString n ++ " (" ++ name ++ ")"
    | none => "signal: " ++ toString n

end ExitStatus

inductive LinkerQuery where
  | none
  | table (entries : List (Path × ResolvedLibrary))
  | program (path : Path)

namespace LinkerQuery

def name : LinkerQuery → String
  | .none => "none"
  | .table _ => "static"
  | .program _ => "ldd"

/-- The program given explicitly, or by the environment, or the usual one. -/
def programPath (explicit environment : Option Path) : Path :=
  (explicit <|> environment).getD (.ofString "ldd")

def readExecution (program binary : Path) : Except Fault Execution →
    Except LinkerFault (List ResolvedLibrary)
  | .error fault => .error (.spawn (program.display ++ ": " ++ fault.message))
  | .ok e =>
    if e.status = .code 0 then .ok (Listing.read (Utf8.lossy e.output.data.toList))
    else .error (.failed
      (program.display ++ " exited with " ++ e.status.text ++ " for " ++ binary.display))

def resolve {m : Type → Type} [Monad m] [Host m] (q : LinkerQuery) (binary : Path) :
    m (Except LinkerFault (List ResolvedLibrary)) :=
  match q with
  | .none => return .ok []
  | .table entries => return .ok ((entries.filter (·.1.same binary)).map (·.2))
  | .program path => return readExecution path binary (← Host.execute path binary)

end LinkerQuery

end ElfFacts
