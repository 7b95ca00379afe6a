import ElfFacts.Command.Plan
import ElfFacts.Command.Settings
import ElfFacts.Logging

/-!
# The command line

Options start with two dashes. An option with a value takes it after an equals sign or from the next
word, which must not look like an option. A value is looked at only when the next option comes or
the line ends, so that asking a command for help wins over a bad value before the command.
-/
namespace ElfFacts

/-- Why nothing is run. -/
inductive Stop where
  | usage
  | help
  | version
  deriving DecidableEq, Repr

structure Switch where
  name : String
  valued : Bool := true
  repeatable : Bool := false
  accepts : String → Bool := fun _ => true

namespace CommandLine

/-- A word of the line, `none` if it is not text. -/
abbrev Word := Option String

/-- The options read so far, and one whose value has not been looked at. -/
structure Reading where
  found : List (String × String) := []
  held : Option (Switch × Word) := none

namespace Reading

def add (r : Reading) (s : Switch) (value : Word) : Except Stop Reading :=
  match value with
  | none => .error .usage
  | some v =>
    if !s.repeatable && (r.found.lookup s.name).isSome then .error .usage
    else if s.accepts v then .ok { r with found := r.found ++ [(s.name, v)] }
    else .error .usage

def settle (r : Reading) : Except Stop Reading :=
  match r.held with
  | none => .ok r
  | some (s, value) => { r with held := none }.add s value

def values (r : Reading) (name : String) : List String :=
  (r.found.filter (·.1 = name)).map (·.2)

def value? (r : Reading) (name : String) : Option String := r.found.lookup name

def has (r : Reading) (name : String) : Bool := (r.value? name).isSome

def paths (r : Reading) (name : String) : List Path := (r.values name).map Path.ofString

def path? (r : Reading) (name : String) : Option Path := (r.value? name).map Path.ofString

end Reading

structure Level where
  switches : List Switch
  commands : List String := []
  versioned : Bool := false

def splitOption (cs : List Char) : String × Option String :=
  let name := cs.takeWhile (· ≠ '=')
  (String.ofList name,
    if name.length < cs.length then some (String.ofList (cs.drop (name.length + 1))) else none)

/-- A word that can be a value. One dash alone is one. -/
def isValue : Word → Bool
  | none => true
  | some s => s = "-" || s.toList.head? ≠ some '-'

namespace Level

/-- Reads one option. Gives the switch whose value is in the next word, if there is one. -/
def option (l : Level) (r : Reading) (cs : List Char) : Except Stop (Reading × Option Switch) := do
  let (name, attached) := splitOption cs
  if attached.isNone && (name = "help" || (l.versioned && name = "version")) then
    let _ ← r.settle
    .error (if name = "help" then .help else .version)
  else
    match l.switches.find? (·.name = name), attached with
    | none, _ => .error .usage
    | some s, some v =>
      if s.valued then return (← (← r.settle).add s (some v), none) else .error .usage
    | some s, none =>
      if s.valued then return (← r.settle, some s)
      else return (← (← r.settle).add s (some ""), none)

/-- There are short options only for help and for the version. -/
def shortOption {α : Type} (l : Level) (r : Reading) (c : Char) : Except Stop α := do
  let _ ← r.settle
  if c = 'h' then .error .help
  else if c = 'V' && l.versioned then .error .version
  else .error .usage

/-- Reads words up to a command; gives that command and the words behind it. -/
def read (l : Level) : (r : Reading) → (awaiting : Option Switch) → List Word →
    Except Stop (Reading × Option (String × List Word))
  | _, some _, [] => .error .usage
  | r, none, [] => return (← r.settle, none)
  | r, some s, w :: rest =>
    if isValue w then l.read { r with held := some (s, w) } none rest else .error .usage
  | _, none, none :: _ => .error .usage
  | r, none, some w :: rest =>
    if l.commands.contains w then return (r, some (w, rest))
    else
      match w.toList with
      | ['-', '-'] => if rest.isEmpty then return (← r.settle, none) else .error .usage
      | '-' :: '-' :: cs =>
        match l.option r cs with
        | .error stop => .error stop
        | .ok (r, awaiting) => l.read r awaiting rest
      | '-' :: c :: _ => l.shortOption r c
      | _ => .error .usage

end Level

/-! ## Levels -/

def logSwitches : List Switch :=
  [{ name := "log-level", accepts := fun s => (LogLevel.parse? s).isSome },
    { name := "log-format", accepts := fun s => (LogFormat.parse? s).isSome }]

def commands : List String := ["version", "generate", "inspect", "init-config", "help"]

def top : Level := { switches := logSwitches, commands, versioned := true }

def commandSwitches : String → List Switch
  | "generate" =>
    [{ name := "main", repeatable := true }, { name := "lib", repeatable := true },
      { name := "compiler", repeatable := true }, { name := "manifest" }, { name := "out-dir" },
      { name := "config" }, { name := "no-ldd", valued := false }]
  | "inspect" => [{ name := "path" }, { name := "json", valued := false }]
  | "init-config" => [{ name := "path" }, { name := "force", valued := false }]
  | _ => []

def levelOf (command : String) : Level := { switches := commandSwitches command ++ logSwitches }

end CommandLine

/-! ## What is asked for -/

inductive Task where
  | version
  | generate (o : GenerateOptions)
  | inspect (path : Path) (json : Bool)
  | initConfig (path : Path) (force : Bool)
  deriving DecidableEq, Repr

structure Invocation where
  task : Task
  level : LogLevel
  format : LogFormat
  deriving DecidableEq, Repr

namespace CommandLine

def generateOptions (r : Reading) : GenerateOptions where
  mains := r.paths "main"
  libraries := r.paths "lib"
  compilers := r.paths "compiler"
  manifest := r.path? "manifest"
  outDir := r.path? "out-dir"
  config := r.path? "config"
  noLinker := r.has "no-ldd"

def task (command : String) (r : Reading) : Except Stop Task :=
  match command with
  | "generate" => .ok (.generate (generateOptions r))
  | "inspect" => (r.path? "path").elim (.error .usage) fun p => .ok (.inspect p (r.has "json"))
  | "init-config" =>
    .ok (.initConfig ((r.path? "path").getD Command.defaultConfigFile) (r.has "force"))
  | _ => .ok .version

/-- Help can be asked for on at most one command that is there. -/
def helpAsked : List Word → Stop
  | [] => .help
  | [some c] => if commands.contains c then .help else .usage
  | _ => .usage

/-- Log options behind the command win over those before it. -/
def invocation (environment : Option Path) (task : Task) (outer inner : Reading) : Invocation where
  task := task
  level := (((inner.value? "log-level") <|> outer.value? "log-level").bind LogLevel.parse?).getD .warn
  format := (((inner.value? "log-format") <|> outer.value? "log-format").bind LogFormat.parse?).getD
    (LogFormat.ofEnvironment environment)

/-- What a line asks for. Without a command that is the version. -/
def parse (environment : Option Path) (words : List Word) : Except Stop Invocation := do
  match ← top.read {} none words with
  | (outer, none) => return invocation environment .version outer {}
  | (outer, some (command, rest)) =>
    if command = "help" then .error (helpAsked rest)
    else
      let (inner, _) ← (levelOf command).read {} none rest
      let outer ← outer.settle
      return invocation environment (← task command inner) outer inner

end CommandLine

end ElfFacts
