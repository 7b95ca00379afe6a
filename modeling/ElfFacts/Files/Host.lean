import ElfFacts.Files.Tree

/-!
# What a command asks of its surroundings

A command reads and writes files, starts the linker query and asks for the time. `Host` says so for
any monad; `Disk` answers from a file tree that it carries along.
-/
namespace ElfFacts

inductive FileKind where
  | file
  | directory
  | other
  deriving DecidableEq, Repr

inductive ExitStatus where
  | code (n : Nat)
  | signal (n : Nat)
  deriving DecidableEq, Repr

structure Execution where
  status : ExitStatus
  output : ByteArray

class Host (m : Type → Type) where
  currentDirectory : m Path
  kind : Path → m (Option FileKind)
  canonical : Path → m (Except Fault Path)
  read : Path → m (Except Fault ByteArray)
  write : Path → ByteArray → m (Except Fault Unit)
  makeDirectory : Path → m (Except Fault Unit)
  execute : Path → Path → m (Except Fault Execution)
  now : m String

/-- Makes a directory with all directories above it. The fuel bounds how far up it goes. -/
def makeDirectories {m : Type → Type} [Monad m] [Host m] : (fuel : Nat) → Path → m (Except Fault Unit)
  | 0, _ => return .error .missing
  | fuel + 1, p => do
    if p.octets = [] then return .ok ()
    match ← Host.makeDirectory p with
    | .ok () => return .ok ()
    | .error .missing =>
      match p.parent? with
      | none => return .error .missing
      | some parent =>
        match ← makeDirectories fuel parent with
        | .error fault => return .error fault
        | .ok () => retry p
    | .error fault =>
      if (← Host.kind p) = some .directory then return .ok () else return .error fault
where
  retry (p : Path) : m (Except Fault Unit) := do
    match ← Host.makeDirectory p with
    | .ok () => return .ok ()
    | .error fault =>
      if (← Host.kind p) = some .directory then return .ok () else return .error fault

def makeAllDirectories {m : Type → Type} [Monad m] [Host m] (p : Path) : m (Except Fault Unit) :=
  makeDirectories (p.octets.length + 1) p

abbrev Disk := StateM FileTree

namespace Disk

def kindOf (t : FileTree) (p : Path) : Option FileKind :=
  match t.stat p with
  | .ok (.file ..) => some .file
  | .ok .directory => some .directory
  | .ok (.link _) | .ok .null => some .other
  | .error _ => none

/-- Keeps the changed tree, and the old one when the change fails. -/
def change (f : FileTree → Except Fault FileTree) : Disk (Except Fault Unit) := fun t =>
  match f t with
  | .ok t' => (.ok (), t')
  | .error fault => (.error fault, t)

end Disk

end ElfFacts
