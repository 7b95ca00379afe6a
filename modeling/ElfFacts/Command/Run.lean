import ElfFacts.Command.Generate
import ElfFacts.Command.Inspect
import ElfFacts.Command.Line

/-!
# Running a command line

Wrong usage ends with status 2 and a command that fails with status 1.
-/
namespace ElfFacts

structure Outcome where
  status : Nat
  output : String := ""
  /-- What is told on the error stream. -/
  complaint : Option String := none
  deriving DecidableEq, Repr

namespace Command

def name : String := "abi-facts"

def versionText : String :=
  name ++ " v" ++ libraryVersion ++ "\n" ++ name ++ "-core v" ++ libraryVersion ++ "\n"

def usageText : String :=
  "Usage: " ++ name ++ " [OPTIONS] [COMMAND]\n\nCommands: " ++
    ", ".intercalate CommandLine.commands ++ "\n"

def stopped : Stop → Outcome
  | .usage => { status := 2, complaint := some usageText }
  | .help => { status := 0, output := usageText }
  | .version => { status := 0, output := name ++ " " ++ libraryVersion ++ "\n" }

def ended : Except CommandFault String → Outcome
  | .ok output => { status := 0, output }
  | .error fault => { status := 1, complaint := some ("Error: " ++ fault.message) }

variable {m : Type → Type} [Monad m] [Host m]

def perform (environment : Environment) : Task → m (Except CommandFault String)
  | .version => return .ok versionText
  | .generate o => generate o environment
  | .inspect p json => inspect p json
  | .initConfig p force => initConfig p force

def run (environment : Environment) (words : List CommandLine.Word) : m Outcome := do
  match CommandLine.parse environment.logFormat words with
  | .error stop => return stopped stop
  | .ok i => return ended (← perform environment i.task)

end Command

end ElfFacts
