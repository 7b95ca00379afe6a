import ElfFacts.Command.Run
import ElfFacts.Files.Disk
import ElfFacts.Text.Instant
import Std.Time.DateTime

/-!
# The program

The command line on the file system of the machine. Of other programs only shell scripts are run.
-/
namespace ElfFacts

namespace Machine

def faultOf : IO.Error → Fault
  | .noFileOrDirectory .. => .missing
  | .noSuchThing .. => .missing
  | .permissionDenied .. => .denied
  | .alreadyExists .. => .alreadyThere
  | .inappropriateType _ code _ => if code = 20 then .notDirectory else .isDirectory
  | e => .other e.toString

def attempt {α : Type} (action : IO α) : IO (Except Fault α) := do
  try
    return .ok (← action)
  catch e => return .error (faultOf e)

def kind (p : Path) : IO (Option FileKind) := do
  match ← attempt (IO.FS.realPath p.display) with
  | .error _ => return none
  | .ok place =>
    match ← attempt place.metadata with
    | .error _ => return none
    | .ok m =>
      return some (match m.type with
        | .file => .file
        | .dir => .directory
        | _ => .other)

def currentDirectory : IO Path := return .ofString (toString (← IO.currentDir))

def read (p : Path) : IO (Except Fault ByteArray) := attempt (IO.FS.readBinFile p.display)

def isExecutable (p : Path) : IO Bool := do
  match ← attempt (IO.FS.Handle.mk p.display .read) with
  | .error _ => return false
  | .ok _ => return true

def seen (name : List Char) : IO (Option Script.Seen) := do
  let p := Script.pathOf name
  match ← kind p with
  | some .directory =>
    match ← attempt (do (← IO.FS.realPath p.display).readDir) with
    | .ok entries =>
      return some (.directory (entries.toList.map fun e => Script.nameOf (.ofString e.fileName)))
    | .error _ => return none
  | some .file =>
    match ← read p with
    | .ok content =>
      return some (.file (Script.ofOctets content.data.toList) (← isExecutable p))
    | .error _ => return none
  | _ => return none

def surroundings : Script.Surroundings IO where
  examine := seen
  canonical name := do
    match ← attempt (IO.FS.realPath (Script.pathOf name).display) with
    | .ok place => return some (Script.nameOf (.ofString place.toString))
    | .error _ => return none
  write name content := do
    let octets := (Script.toOctets content).toArray
    match ← attempt (IO.FS.writeBinFile (Script.pathOf name).display ⟨octets⟩) with
    | .ok _ => return true
    | .error _ => return false

def execute (program argument : Path) : IO (Except Fault Execution) := do
  let ending ← Script.execute surroundings (Script.nameOf (← currentDirectory))
    (Script.nameOf program) [Script.nameOf argument]
  return ending.map Script.execution

def now : IO String := do
  let t ← Std.Time.Timestamp.now
  let nanoseconds := t.toNanosecondsSinceUnixEpoch.toInt.toNat
  return (Instant.mk (nanoseconds / 1000000000) (nanoseconds % 1000000000)).text

instance : Host IO where
  currentDirectory := currentDirectory
  kind := kind
  canonical p := attempt do return .ofString (toString (← IO.FS.realPath p.display))
  read := read
  write p content := attempt (IO.FS.writeBinFile p.display content)
  makeDirectory p := attempt (IO.FS.createDir p.display)
  execute := execute
  now := now

def environment : IO Environment := do
  return { linker := (← IO.getEnv "ABI_FACTS_LDD").map Path.ofString
           logFormat := (← IO.getEnv "ABI_FACTS_LOG_FORMAT").map Path.ofString }

end Machine

end ElfFacts

open ElfFacts in
def main (args : List String) : IO UInt32 := do
  let outcome ← Command.run (m := IO) (← Machine.environment) (args.map some)
  IO.print outcome.output
  if let some complaint := outcome.complaint then IO.eprintln complaint
  return UInt32.ofNat outcome.status
