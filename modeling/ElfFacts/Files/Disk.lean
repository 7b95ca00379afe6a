import ElfFacts.Files.Host
import ElfFacts.Script.Run

/-!
# File trees as surroundings

On a file tree only scripts can run, and the programs that every system has.
-/
namespace ElfFacts

namespace Script

def Ending.status : Ending → ExitStatus
  | .exit n => .code n
  | .killed n => .signal n

def execution (e : Ending × List Char) : Execution := ⟨e.1.status, ⟨(toOctets e.2).toArray⟩⟩

def pathOf (name : List Char) : Path := ⟨toOctets name⟩

def nameOf (p : Path) : List Char := ofOctets p.octets

end Script

namespace Disk

def read (p : Path) : Disk (Except Fault ByteArray) := fun t => (t.read p, t)

def seen (t : FileTree) (name : List Char) : Option Script.Seen :=
  match t.look (Script.pathOf name) with
  | .ok (place, .directory) => some (.directory ((t.namesIn place).map Script.ofOctets))
  | .ok (_, .file content executable) =>
    some (.file (Script.ofOctets content.data.toList) executable)
  | .ok (_, .null) => some (.file [] false)
  | _ => none

def surroundings : Script.Surroundings Disk where
  examine name := fun t => (seen t name, t)
  canonical name := fun t => ((t.canonical (Script.pathOf name)).toOption.map Script.nameOf, t)
  write name content := fun t =>
    match t.write (Script.pathOf name) ⟨(Script.toOctets content).toArray⟩ with
    | .ok t' => (true, t')
    | .error _ => (false, t)

/-- Runs a program on an argument. If there is no such program, the tree says why. -/
def execute (program argument : Path) : Disk (Except Fault Execution) := do
  if program.octets.contains 0 ∨ argument.octets.contains 0 then
    return .error (.other "nul byte found in provided data")
  else
    let t ← get
    match ← Script.execute surroundings (Script.nameOf t.currentDirectory) (Script.nameOf program)
        [Script.nameOf argument] with
    | .ok ending => return .ok (Script.execution ending)
    | .error fault =>
      match t.stat program with
      | .error reason => return .error (if program.octets.contains Path.slash then reason else fault)
      | .ok _ => return .error fault

/-- The time on a file tree stands still. -/
def time : String := "1970-01-01T00:00:00Z"

instance : Host Disk where
  currentDirectory := fun t => (t.currentDirectory, t)
  kind p := fun t => (kindOf t p, t)
  canonical p := fun t => (t.canonical p, t)
  read := read
  write p content := change (·.write p content)
  makeDirectory p := change (·.makeDirectory p)
  execute := execute
  now := return time

end Disk

end ElfFacts
