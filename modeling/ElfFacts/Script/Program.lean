import ElfFacts.Files.Fault
import ElfFacts.Script.Builtin
import ElfFacts.Script.Tool

/-!
# Programs

What is run by its path: one of the programs that every system has, or a script, which is run by
the program that its first line names.
-/
namespace ElfFacts.Script

namespace Running

variable {m : Type → Type} [Monad m]

open Builtin (Run)

/-- Runs an action, and at the end what is set up for the exit. -/
def toEnd (run : Run m) (action : Running m Unit) : Running m Unit := do
  action
  let s ← get
  if s.flow = .next ∨ s.flow = .exit ∨ s.flow = .back then
    if let some last := s.traps.lookup 0 then
      set { s with flow := .next, traps := s.traps.filter (·.1 ≠ 0) }
      Builtin.source run last
      if (← get).flow = .next then setStatus s.status

/-! ## Programs that every system has -/

def programDirectories : List String := ["/bin/", "/usr/bin/"]

/-- The name of a program that every system has, from its path. -/
def installedName? (name : List Char) : Option (List Char) :=
  programDirectories.findSome? fun d =>
    let rest := name.drop d.length
    if d.toList.isPrefixOf name && !rest.contains '/' then some rest else none

/-- What a tool makes of its files, or of the input. A file that cannot be read is a failure. -/
def useTool (t : Tool) : Running m Unit := do
  let operands := if t.operands = [] then [['-']] else t.operands
  let contents ← operands.mapM fun name =>
    if name = ['-'] then some <$> takeInput else fileContent? name
  let present := (operands.zip contents).filterMap fun (name, content?) => content?.map (name, ·)
  let (text, status) := if present = [] then ([], 0) else t.apply present
  say text
  setStatus (if contents.any Option.isNone then max 1 status else status)

/-- How much of a script is looked at for the program that runs it. -/
def headLength : Nat := 256

/-- The program that the first line of a script names, and its option. A line that goes on behind
the head is cut off there, but a name that goes on makes no script. -/
def interpreter? (content : List Char) : Option (List Char × List (List Char)) :=
  match content.take headLength with
  | '#' :: '!' :: rest =>
    let line := rest.takeWhile (· ≠ '\n')
    let behindBlanks := line.dropWhile isBlank
    let cutOff := line.length = headLength - 2 && behindBlanks.all (!isBlank ·)
    let shown := (line.take (headLength - 3)).takeWhile (· ≠ '\x00')
    let text := ((shown.dropWhile isBlank).reverse.dropWhile isBlank).reverse
    let name := text.takeWhile (!isBlank ·)
    let option := (text.drop name.length).dropWhile isBlank
    if name = [] ∨ cutOff then none else some (name, if option = [] then [] else [option])
  | _ => none

def shells : List (String × Dialect) := [("sh", .escaping), ("dash", .escaping), ("bash", .plain)]

def usualVariables (directory : List Char) : List (List Char × List Char) :=
  [("PWD".toList, directory), ("PPID".toList, ['1']), ("OPTIND".toList, ['1']),
    ("PATH".toList, "/usr/local/sbin:/usr/local/bin:/usr/sbin:/usr/bin:/sbin:/bin".toList)]

/-- Runs a source in a shell of its own, which knows no more of the one around it than the streams
and the variables that are exported. -/
def freshShell (run : Run m) (dialect : Dialect) (options name : List Char)
    (arguments : List (List Char)) (content : List Char) : Running m Unit :=
  apart do
    modify fun s => { s with
      dialect, options, name, arguments, functions := [], saved := none, fixed := [], tested := false
      bindings := (s.bindings.filter fun v => s.exported.contains v.1) ++
        (usualVariables []).filter fun v => !s.exported.contains v.1 }
    setStatus 0
    toEnd run (Builtin.source run content)

def shellProgram (run : Run m) (dialect : Dialect) : (arguments : List (List Char)) →
    (options : List Char) → Running m Unit
  | ['-', 'c'] :: text :: rest, options =>
    freshShell run dialect options (rest.headD "sh".toList) rest.tail text
  | ['-', '-'] :: rest, options | ['-', 's'] :: rest, options => fileOrInput rest options
  | ('-' :: letters) :: rest, options =>
    if letters.contains 'c' then
      match rest with
      | text :: rest =>
        freshShell run dialect (options ++ letters.filter (· ≠ 'c')) (rest.headD "sh".toList) rest.tail text
      | [] => setStatus 2
    else shellProgram run dialect rest (options ++ letters)
  | arguments, options => fileOrInput arguments options
where
  fileOrInput (arguments : List (List Char)) (options : List Char) : Running m Unit := do
    match arguments with
    | [] => freshShell run dialect options "sh".toList [] (← takeInput)
    | name :: rest =>
      match ← fileContent? name with
      | some content => freshShell run dialect options name rest content
      | none => setStatus (if dialect = .plain then 127 else 2)

/-- Tells the files that are there, and then the names in directories. Several operands have their
names above what is in them. -/
def listNames (a : Arguments) : Running m Unit := do
  let sorted (names : List (List Char)) := names.mergeSort fun a b => (compare a b).isLE
  let operands := sorted (if a.operands = [] then [['.']] else a.operands)
  let seen ← operands.mapM fun name => return (name, ← examine name)
  for (name, what) in seen do
    if what.isNone then
      sayOn 2 ("ls: cannot access '".toList ++ name ++ "': No such file or directory\n".toList)
  let isPlain (what : Option Seen) : Bool := match what with
    | some (.directory _) => a.has 'd'
    | w => w.isSome
  let plain := seen.filter fun s => isPlain s.2
  say (unlines (plain.map (·.1)))
  let listings := seen.filterMap fun (name, what) => match what with
    | some (.directory names) => if a.has 'd' then none else some (name, names)
    | _ => none
  let blocks := listings.map fun (name, names) =>
    let names := if a.has 'a' then ['.'] :: ['.', '.'] :: names else names
    let shown := names.filter fun n => a.has 'a' || a.has 'A' || n.head? ≠ some '.'
    (if seen.length ≤ 1 then [] else name ++ [':', '\n']) ++ unlines (sorted shown)
  say ((if plain = [] ∨ blocks = [] then [] else ['\n']) ++ ['\n'].intercalate blocks)
  setStatus (if seen.any (·.2.isNone) then 2 else 0)

/-- The path without links that a name stands for. Its last part need not be there, unless
`strict` is set. -/
def placeOf (strict : Bool) (name : List Char) : Running m (Option (List Char)) := do
  match ← canonical name with
  | some place => return some place
  | none =>
    if strict then return none
    else
      let last := lastName name
      let above ← canonical (directoryName name)
      return if last = [] ∨ last = ['.', '.'] then none
        else above.map fun d => if d = ['/'] then '/' :: last else d ++ '/' :: last

def standardProgram? (run : Run m) (name : List Char) (arguments : List (List Char)) :
    Option (Running m Unit) :=
  match shells.lookup (String.ofList name) with
  | some dialect => some (shellProgram run dialect arguments [])
  | none =>
    match tool? name arguments with
    | some t => some (useTool t)
    | none =>
      match String.ofList name with
      | "tee" => some do
        let text ← takeInput
        for file in (Arguments.read "" arguments).operands do
          let _ ← writeFile ((← get).place file) text
        say text
        setStatus 0
      | "touch" => some do
        let a := Arguments.read "dtr" arguments
        let went ← a.operands.mapM fun file => do
          if a.has 'c' || (← examine file).isSome then return true
          else writeFile ((← get).place file) []
        setStatus (if went.all id then 0 else 1)
      | "ls" => some (listNames (Arguments.read "" arguments))
      | "readlink" | "realpath" => some do
        let a := Arguments.read "" arguments
        let resolves := name = "realpath".toList || a.has 'f' || a.has 'e' || a.has 'm'
        let places ← if resolves then a.operands.mapM (placeOf (a.has 'e')) else pure [none]
        say (unlines (places.filterMap id))
        setStatus (if places.any Option.isNone then 1 else 0)
      | "test" => some (Builtin.test arguments)
      | "[" => some (Builtin.bracket arguments)
      | "pwd" => some Builtin.tellDirectory
      | _ => do
        -- a program outside the shell prints plain text, whatever the shell does
        let (text, status) ← answer? .plain name arguments
        some do
          say text
          setStatus status

/-! ## Programs that run other ones -/

structure Delegation where
  commands : List (List (List Char))
  conclude : List Nat → Nat

def Delegation.to (command : List (List Char)) : Delegation := ⟨[command], (·.headD 0)⟩

def wordsOf (cs : List Char) : List (List Char) :=
  (splitFields [' ', '\t', '\n'] (Bit.ofText .expanded cs)).map Bit.text

/-- Changes variables as the words in front of a command ask for, and gives the command. -/
def changeVariables : (fuel : Nat) → List (List Char) → Running m (List (List Char))
  | 0, words => return words
  | _ + 1, [] => return []
  | fuel + 1, word :: rest => do
    match word with
    | ['-', 'i'] | ['-'] =>
      modify fun s => { s with bindings := s.bindings.filter (·.1 = "PATH".toList) }
      changeVariables fuel rest
    | ['-', 'u'] =>
      modify (·.unset (rest.headD []))
      changeVariables fuel rest.tail
    | '-' :: 'S' :: cs =>
      if cs = [] then changeVariables fuel (wordsOf (rest.headD []) ++ rest.tail)
      else changeVariables fuel (wordsOf cs ++ rest)
    | _ =>
      match assignment? word with
      | some (name, value) =>
        modify fun s => { s.put name value with exported := name :: s.exported }
        changeVariables fuel rest
      | none => return word :: rest

def grouped (size : Nat) : (fuel : Nat) → List (List Char) → List (List (List Char))
  | 0, _ => []
  | fuel + 1, words =>
    if words = [] then [] else words.take size :: grouped size fuel (words.drop size)

/-- The items of a text: words or, if `wholeLines` is set, lines. Quotes and backslashes keep
blanks together, and quotes have to be closed on their line. -/
def itemsFrom (wholeLines : Bool) : (fuel : Nat) → Option (List Char) → List Char →
    Option (List (List Char))
  | 0, _, _ => none
  | _ + 1, item, [] => some item.toList
  | fuel + 1, item, c :: rest =>
    let go (cs : List Char) := itemsFrom wholeLines fuel (some (item.getD [] ++ cs))
    if c = '\n' ∨ (isBlank c ∧ (!wholeLines ∨ item.isNone)) then
      (itemsFrom wholeLines fuel none rest).map (item.toList ++ ·)
    else if c = '\\' then go (rest.take 1) (rest.drop 1)
    else if c = '\'' ∨ c = '"' then
      let inside := rest.takeWhile fun x => x ≠ c && x ≠ '\n'
      match rest.drop inside.length with
      | x :: rest => if x = c then go inside rest else none
      | [] => none
    else go [c] rest

def items? (wholeLines : Bool) (cs : List Char) : Option (List (List Char)) :=
  itemsFrom wholeLines (cs.length + 1) none cs

def filledFrom (mark item : List Char) : (fuel : Nat) → List Char → List Char
  | 0, cs => cs
  | _ + 1, [] => []
  | fuel + 1, c :: rest =>
    if mark.isPrefixOf (c :: rest) then item ++ filledFrom mark item fuel ((c :: rest).drop mark.length)
    else c :: filledFrom mark item fuel rest

def fromInput (arguments : List (List Char)) : Running m Delegation := do
  let options := arguments.takeWhile fun a => a.head? = some '-'
  let a := Arguments.read "nILd" (arguments.take (options.length + 1))
  let valued := options.getLast?.elim false fun o => o.length = 2 && ['n', 'I', 'L'].contains (o.getD 1 ' ')
  let command := arguments.drop (options.length + valued.toNat)
  let command := if command = [] then ["echo".toList] else command
  let conclude (statuses : List Nat) : Nat :=
    if statuses.contains 127 then 127 else if statuses.all (· = 0) then 0 else 123
  match items? (a.has 'I') (← takeInput) with
  | none => return ⟨[], fun _ => 1⟩
  | some items =>
    match a.value? 'I' with
    | some mark =>
      return ⟨items.map fun item => command.map fun cs =>
        if mark = [] then cs else filledFrom mark item (cs.length + 1) cs, conclude⟩
    | none =>
      let size := ((a.value? 'n').bind number?).getD (items.length + 1)
      let groups := grouped (max 1 size) (items.length + 1) items
      let groups := if groups = [] ∧ !a.has 'r' then [[]] else groups
      return ⟨groups.map (command ++ ·), conclude⟩

def delegation? (name : List Char) (arguments : List (List Char)) :
    Option (Running m Delegation) :=
  match String.ofList name with
  | "env" => some do
    let command ← changeVariables (arguments.length + 256) arguments
    if command = [] then
      let s ← get
      let shown := s.bindings.filter fun v => s.exported.contains v.1
      say (unlines (shown.reverse.map fun v => v.1 ++ '=' :: v.2))
    return if command = [] then ⟨[], fun _ => 0⟩ else .to command
  | "xargs" => some (fromInput arguments)
  | "nohup" | "nice" | "setsid" => some (return .to arguments)
  | "timeout" => some (return .to arguments.tail)
  | _ => none

/-! ## Programs by their paths -/

def isInstalled (run : Run m) (path : List Char) : Bool :=
  match installedName? path with
  | none => false
  | some name => (standardProgram? run name []).isSome || (delegation? (m := m) name []).isSome

/-- The paths that a name can stand for. Where nothing is said about them, programs are those that
every system has. -/
def searchPaths (name : List Char) : Running m (List (List Char)) := do
  match (← get).binding? "PATH".toList with
  | none => return ["/usr/bin/".toList ++ name]
  | some places => return (inList.parts ':' places).map fun d =>
      if d = [] then name else d ++ '/' :: name

/-- The path of the program with this name, which is a path already if it has a slash. -/
def programPath? (run : Run m) (name : List Char) : Running m (Option (List Char)) := do
  if name.contains '/' then return some name
  else
    let isProgram (path : List Char) : Running m Bool := do
      if isInstalled run path then return true
      else return (← examine path) matches some (.file _ true)
    (← searchPaths name).findM? isProgram

abbrev Launch (m : Type → Type) :=
  (path : List Char) → (arguments : List (List Char)) → Running m (Except Fault (Running m Unit))

/-- Runs a command line as a program. A file that is no script by its first line is one for the
shell. -/
def start (launch : Launch m) (run : Run m) (command : List (List Char)) : Running m Unit := do
  let name := command.headD []
  match ← programPath? run name with
  | none => setStatus 127
  | some path =>
    match ← launch path command.tail with
    | .ok action => action
    | .error .notExecutable =>
      let content ← fileContent? path
      freshShell run .escaping [] path command.tail (content.getD [])
    | .error fault =>
      setStatus (if fault = .missing ∨ fault = .tooManyLinks then 127 else 126)

/-- Finds out how a program is run. Its first line can name another script, so often. -/
def launchFrom (run : Run m) : (depth : Nat) → Launch m
  | 0, _, _ => return .error .tooManyLinks
  | depth + 1, path, arguments => do
    let installed := installedName? path
    match installed.bind (standardProgram? run · arguments), installed.bind (delegation? · arguments) with
    | some action, _ => return .ok action
    | none, some prepare => return .ok (apart do
        let d ← prepare
        let statuses ← d.commands.mapM fun c => do
          start (launchFrom run depth) run c
          return (← get).status
        setStatus (d.conclude statuses))
    | none, none =>
      match ← examine path with
      | none => return .error .missing
      | some (.directory _) | some (.file _ false) => return .error .denied
      | some (.file content true) =>
        match interpreter? content with
        | none => return .error .notExecutable
        | some (name, options) => launchFrom run depth name (options ++ path :: arguments)

def deepestScript : Nat := 6

def launch (run : Run m) : Launch m := launchFrom run deepestScript

end Running

end ElfFacts.Script
