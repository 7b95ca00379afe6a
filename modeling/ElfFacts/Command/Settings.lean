import ElfFacts.Command.Inputs
import ElfFacts.Json.Printer

/-!
# Writing the usual settings

A settings file that is there is only replaced by force.
-/
namespace ElfFacts.Command

variable {m : Type → Type} [Monad m] [Host m]

def defaultConfigFile : Path := .ofString "abi-facts.json"

def makeParent (p : Path) : m (Except CommandFault Unit) := do
  match p.parent? with
  | none => return .ok ()
  | some parent =>
    match ← makeAllDirectories parent with
    | .error _ => return .error (.configDirectory parent)
    | .ok () => return .ok ()

def initConfig (p : Path) (force : Bool) : m (Except CommandFault String) := do
  let p ← locate p
  if (← Host.kind p).isSome && !force then return .error (.configPresent p)
  else
    match ← makeParent p with
    | .error fault => return .error fault
    | .ok () =>
      match ← Host.write p ({} : Config).toJson.render.toUTF8 with
      | .error _ => return .error (.configWrite p)
      | .ok () => return .ok ("Wrote generator config: " ++ p.display ++ "\n")

end ElfFacts.Command
