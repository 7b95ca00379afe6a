import ElfFacts.Script.Format

/-!
# The state of a shell

Variables, functions and streams, and what a command leaves behind. The text that goes to a stream
is kept in a buffer, put into a file or left out; the innermost buffer comes first.
-/
namespace ElfFacts.Script

inductive Seen where
  | directory (names : List (List Char))
  | file (content : List Char) (executable : Bool)

structure Surroundings (m : Type → Type) where
  examine : List Char → m (Option Seen)
  canonical : List Char → m (Option (List Char))
  write : List Char → List Char → m Bool

/-- Where the text of a stream goes. Buffers are counted from the outermost one. -/
inductive Sink where
  | nowhere
  | buffer (level : Nat)
  | file (name : List Char)
  deriving DecidableEq, Repr

inductive Flow where
  | next
  /-- Leaves loops, and goes on with the last of them if `again` is set. -/
  | leave (loops : Nat) (again : Bool)
  | back
  | exit
  | killed (signal : Nat)
  deriving DecidableEq, Repr

structure Shell where
  dialect : Dialect := .escaping
  name : List Char := []
  arguments : List (List Char) := []
  /-- The latest value comes first. -/
  bindings : List (List Char × List Char) := []
  exported : List (List Char) := ["PWD", "OLDPWD", "PATH"].map String.toList
  /-- The names that keep their values. -/
  fixed : List (List Char) := []
  /-- What the local names of the function had for values before; `none` outside functions. -/
  saved : Option (List (List Char × Option (List Char))) := none
  functions : List (List Char × Command) := []
  traps : List (Nat × List Char) := []
  /-- The letters that are left of a word of options. -/
  inWord : List Char := []
  directory : List Char := []
  status : Nat := 0
  /-- The status of the last command that was run for its text. -/
  substituted : Option Nat := none
  options : List Char := []
  /-- How many functions are running, one inside another. -/
  calls : Nat := 0
  /-- How many loops of the function are running. -/
  loops : Nat := 0
  /-- A failure of the command that runs is part of a condition. -/
  tested : Bool := false
  input : List Char := []
  sinks : List (Nat × Sink) := [(1, .buffer 0)]
  /-- What has been printed, the last character first. -/
  buffers : List (List Char) := [[]]
  flow : Flow := .next

abbrev Running (m : Type → Type) := ReaderT (Surroundings m) (StateT Shell m)

namespace Shell

def hasOption (s : Shell) (c : Char) : Bool := s.options.contains c

def processId : List Char := ['4', '2']

def binding? (s : Shell) (name : List Char) : Option (List Char) := s.bindings.lookup name

def put (s : Shell) (name value : List Char) : Shell :=
  { s with bindings := (name, value) :: s.bindings.filter (·.1 ≠ name) }

def unset (s : Shell) (name : List Char) : Shell :=
  { s with bindings := s.bindings.filter (·.1 ≠ name) }

def separators (s : Shell) : List Char :=
  (s.binding? "IFS".toList).getD [' ', '\t', '\n']

def parameter? (s : Shell) (name : List Char) : Option (List Char) :=
  match name with
  | ['#'] => some (decimal s.arguments.length)
  | ['@'] | ['*'] =>
    if s.arguments = [] then none
    else some (((s.separators.head?.map fun c => [c]).getD []).intercalate s.arguments)
  | ['$'] => some processId
  | ['?'] => some (decimal s.status)
  | ['-'] => some s.options
  | _ =>
    match number? name with
    | some 0 => some s.name
    | some n => s.arguments[n - 1]?
    | none => s.binding? name

/-- A name as it is seen from the directory of the shell. -/
def place (s : Shell) (name : List Char) : List Char :=
  if s.directory = [] ∨ name.head? = some '/' ∨ name = [] then name
  else s.directory ++ '/' :: name

def sink (s : Shell) (stream : Nat) : Sink := (s.sinks.lookup stream).getD .nowhere

def direct (s : Shell) (stream : Nat) (sink : Sink) : Shell :=
  { s with sinks := (stream, sink) :: s.sinks.filter (·.1 ≠ stream) }

end Shell

namespace Running

variable {m : Type → Type} [Monad m]

def setStatus (n : Nat) : Running m Unit := modify fun s => { s with status := n }

def setFlow (f : Flow) : Running m Unit := modify fun s => { s with flow := f }

def stop (status : Nat) : Running m Unit := modify fun s => { s with status, flow := .exit }

/-- Gives a name a value. A name that keeps its value ends the shell. -/
def bind (name value : List Char) : Running m Unit := do
  if (← get).fixed.contains name then stop 2 else modify (·.put name value)

def examine (name : List Char) : Running m (Option Seen) := do
  (← read).examine ((← get).place name)

def canonical (name : List Char) : Running m (Option (List Char)) := do
  (← read).canonical ((← get).place name)

def writeFile (name content : List Char) : Running m Bool := do (← read).write name content

def fileContent? (name : List Char) : Running m (Option (List Char)) := do
  if name = "/dev/null".toList then return some []
  else if name = "/dev/stdin".toList then return some (← get).input
  else
    match ← examine name with
    | some (.file content _) => return some content
    | _ => return none

def sayOn (stream : Nat) (cs : List Char) : Running m Unit := do
  let s ← get
  match s.sink stream with
  | .nowhere => return ()
  | .buffer level =>
    set { s with buffers := s.buffers.modify (s.buffers.length - 1 - level) (cs.reverse ++ ·) }
  | .file name =>
    let old ← fileContent? name
    let _ ← writeFile (s.place name) (old.getD [] ++ cs)

def say (cs : List Char) : Running m Unit := sayOn 1 cs

def takeInput : Running m (List Char) := modifyGet fun s => (s.input, { s with input := [] })

def inTest {α : Type} (action : Running m α) : Running m α := do
  let before := (← get).tested
  modify fun s => { s with tested := true }
  let a ← action
  modify fun s => { s with tested := before }
  return a

/-- Runs something in a shell of its own. Its text and its status are left, and the input that it
has not taken. -/
def apart (action : Running m Unit) : Running m Unit := do
  let before ← get
  set { before with traps := [] }
  action
  let after ← get
  let flow := match after.flow with
    | .killed n => Flow.killed n
    | _ => .next
  set { before with
    status := after.status % 256, buffers := after.buffers, input := after.input, flow }

def capture (action : Running m Unit) : Running m (List Char) := do
  let before ← get
  set ({ before with buffers := [] :: before.buffers }.direct 1 (.buffer before.buffers.length))
  apart action
  let after ← get
  set { after with sinks := before.sinks, buffers := after.buffers.drop 1 }
  return (after.buffers.headD []).reverse

/-- A failure that is not part of a condition ends the shell, if it is told to do so. -/
def checkFailure : Running m Unit := do
  let s ← get
  if s.hasOption 'e' && !s.tested && s.status ≠ 0 && s.flow = .next then setFlow .exit

end Running

end ElfFacts.Script
