import ElfFacts.Script.Condition
import ElfFacts.Script.Expansion
import ElfFacts.Script.Parser
import ElfFacts.Signal

/-!
# Commands of the shell itself

Commands that change the shell that runs them: variables, flow, directory, traps and the like.
-/
namespace ElfFacts.Script

namespace Builtin

variable {m : Type → Type} [Monad m]

abbrev Run (m : Type → Type) := Command → Running m Unit

/-- Runs the lines of a source one after another. A line that cannot be read ends the shell. -/
def source (run : Run m) (cs : List Char) : Running m Unit := do
  let (commands, whole) := script cs
  for c in commands do
    if (← get).flow = .next then run c
  if !whole && (← get).flow = .next then Running.stop 2

/-! ## Flow -/

def exit (arguments : List (List Char)) : Running m Unit := do
  match arguments with
  | [] => Running.setFlow .exit
  | n :: _ => Running.stop ((number? n).elim 2 (· % 256))

def back (arguments : List (List Char)) : Running m Unit := do
  match arguments with
  | [] => Running.setFlow .back
  | n :: _ =>
    match number? n with
    | some n => modify fun s => { s with status := n, flow := .back }
    | none => Running.stop 2

/-- Leaves as many loops as there are, at most. Outside loops nothing happens. -/
def leave (again : Bool) (arguments : List (List Char)) : Running m Unit := do
  match number? (arguments.headD ['1']) with
  | none | some 0 => Running.stop 2
  | some n => modify fun s => { s with
      status := 0, flow := if s.loops = 0 then .next else .leave (min n s.loops) again }

/-! ## Variables -/

/-- Gives names values; a name alone is left as it is. -/
def assign (arguments : List (List Char)) : Running m Unit := do
  for a in arguments do
    match assignment? a with
    | some (name, value) => Running.bind name value
    | none => pure ()
  if (← get).flow = .next then Running.setStatus 0

def export_ (arguments : List (List Char)) : Running m Unit := do
  let names := arguments.map fun a => ((assignment? a).map (·.1)).getD a
  modify fun s => { s with exported := names ++ s.exported }
  assign arguments

def namesOf (arguments : List (List Char)) : List (List Char) :=
  arguments.map fun a => ((assignment? a).map (·.1)).getD a

def readonly (arguments : List (List Char)) : Running m Unit := do
  assign arguments
  modify fun s => { s with fixed := namesOf arguments ++ s.fixed }

/-- Makes names local to the function that runs: their values come back when it ends. -/
def local_ (arguments : List (List Char)) : Running m Unit := do
  if (← get).saved.isNone then Running.stop 2
  else
    modify fun s => { s with
      saved := s.saved.map ((namesOf arguments).reverse.map (fun n => (n, s.binding? n)) ++ ·) }
    assign arguments

def unset (arguments : List (List Char)) : Running m Unit := do
  let functions := arguments.head? = some ['-', 'f']
  for name in arguments.filter (·.head? ≠ some '-') do
    if functions then
      modify fun s => { s with functions := s.functions.filter (·.1 ≠ name) }
    else if (← get).fixed.contains name then return (← Running.stop 2)
    else modify (·.unset name)
  Running.setStatus 0

def longOptions : List (List Char × Char) :=
  [("errexit", 'e'), ("nounset", 'u'), ("noglob", 'f'), ("allexport", 'a'), ("noclobber", 'C'),
    ("noexec", 'n'), ("verbose", 'v'), ("xtrace", 'x'), ("monitor", 'm'), ("notify", 'b'),
    ("nolog", 'q'), ("ignoreeof", 'I')].map fun (name, letter) => (String.toList name, letter)

def optionLetters : List Char := "abCefhIilmnosuvVxEqT".toList

/-- Options by their long names become letters, which have to be known. -/
def shortened? : List (List Char) → Option (List (List Char))
  | (sign :: letters) :: rest =>
    if (sign ≠ '-' ∧ sign ≠ '+') ∨ letters = [] ∨ letters = ['-'] then some ((sign :: letters) :: rest)
    else if !letters.all (optionLetters.contains ·) then none
    else
      match rest with
      | [] => some [sign :: letters]
      | name :: more =>
        if letters.getLast? = some 'o' then
          (longOptions.lookup name).bind fun letter =>
            (shortened? more).map ((sign :: (letters.dropLast ++ [letter])) :: ·)
        else (shortened? (name :: more)).map ((sign :: letters) :: ·)
  | arguments => some arguments

def setFrom : List (List Char) → Running m Unit
  | [] => return ()
  | ['-', '-'] :: rest => modify fun s => { s with arguments := rest }
  | ('-' :: letters) :: rest => do
    modify fun s => { s with options := s.options.filter (!letters.contains ·) ++ letters }
    setFrom rest
  | ('+' :: letters) :: rest => do
    modify fun s => { s with options := s.options.filter (!letters.contains ·) }
    setFrom rest
  | rest => modify fun s => { s with arguments := rest }

def set_ (arguments : List (List Char)) : Running m Unit := do
  match shortened? arguments with
  | some arguments =>
    setFrom arguments
    Running.setStatus 0
  | none => Running.stop 2

def shift (arguments : List (List Char)) : Running m Unit := do
  match number? (arguments.headD ['1']) with
  | some n =>
    if n ≤ (← get).arguments.length then
      modify fun s => { s with arguments := s.arguments.drop n, status := 0 }
    else Running.stop 2
  | none => Running.stop 2

/-! ## Reading -/

/-- A line and whether it was ended. Unless `raw` is set, a backslash guards what follows it, and
a guarded line end is left out. -/
def lineFrom (raw : Bool) : (fuel : Nat) → List Char → List (Char × Bool) × Bool × List Char
  | 0, cs => ([], false, cs)
  | _ + 1, [] => ([], false, [])
  | fuel + 1, c :: rest =>
    if c = '\n' then ([], true, rest)
    else
      let add (p : Char × Bool) (r : List (Char × Bool) × Bool × List Char) := (p :: r.1, r.2)
      match raw, c, rest with
      | false, '\\', e :: rest =>
        if e = '\n' then lineFrom raw fuel rest else add (e, true) (lineFrom raw fuel rest)
      | _, _, _ => add (c, false) (lineFrom raw fuel rest)

/-- Gives the fields of a line to names. The last name gets all that is left. -/
def fieldsFor (separators : List Char) : List (List Char) → List (Char × Bool) →
    List (List Char × List Char)
  | [], _ => []
  | name :: names, cs =>
    let isSeparator (p : Char × Bool) : Bool := !p.2 && separators.contains p.1
    let isGap (p : Char × Bool) : Bool := isSeparator p && (isBlank p.1 || p.1 = '\n')
    let cs := cs.dropWhile isGap
    if names = [] then
      let kept := (cs.reverse.dropWhile isGap).reverse
      -- one separator behind a single field belongs to the field
      let field := kept.takeWhile (!isSeparator ·)
      let kept := if (kept.drop field.length).length = 1 then field else kept
      [(name, kept.map (·.1))]
    else
      let field := cs.takeWhile (!isSeparator ·)
      let rest := (cs.drop field.length).dropWhile isGap
      let rest := if (rest.head?.elim false fun p => isSeparator p && !isGap p) then
          (rest.drop 1).dropWhile isGap
        else rest
      (name, field.map (·.1)) :: fieldsFor separators names rest

/-- The next option of a script that reads them one by one. The options that take a value have a
colon behind them. A script that starts them with a colon is told about mistakes by a colon. -/
def nextOption (arguments : List (List Char)) : Running m Unit := do
  match arguments with
  | known :: name :: given =>
    let s ← get
    let given := if given = [] then s.arguments else given
    let index := ((s.binding? "OPTIND".toList).bind number?).getD 1
    let quiet := known.head? = some ':'
    let word := given.getD (index - 1) []
    let letters := if s.inWord = [] then word.drop 1 else s.inWord
    let next (n : Nat) (left : List Char) (s : Shell) : Shell :=
      { s.put "OPTIND".toList (decimal n) with inWord := left, status := 0 }
    if s.inWord = [] ∧ (word.head? ≠ some '-' ∨ word = ['-'] ∨ word = ['-', '-']) then
      let after := if word = ['-', '-'] then index + 1 else index
      set { (next after [] s).put name ['?'] with status := 1 }
    else
      match letters with
      | [] => Running.setStatus 1
      | c :: left =>
        let after := if left = [] then index + 1 else index
        let unknown (mark : Char) (s : Shell) : Shell :=
          (if quiet then s.put "OPTARG".toList [c] else s.unset "OPTARG".toList).put name [mark]
        match if c = ':' then [] else known.dropWhile (· ≠ c) with
        | [] => set (unknown '?' (next after left s))
        | _ :: ':' :: _ =>
          if left ≠ [] then set (((next (index + 1) [] s).put "OPTARG".toList left).put name [c])
          else
            match given[index]? with
            | some value => set (((next (index + 2) [] s).put "OPTARG".toList value).put name [c])
            | none => set (unknown (if quiet then ':' else '?') (next (index + 1) [] s))
        | _ => set (((next after left s).put "OPTARG".toList []).put name [c])
  | _ => Running.setStatus 2

def read_ (arguments : List (List Char)) : Running m Unit := do
  let raw := arguments.any fun a => a.head? = some '-' && a.contains 'r'
  let named := arguments.filter isName
  let names := if named = [] then ["REPLY".toList] else named
  let s ← get
  let (line, ended, rest) := lineFrom raw (s.input.length + 1) s.input
  let values := fieldsFor s.separators names line
  modify fun s => values.foldl (fun s (name, value) => s.put name value)
    { s with input := rest, status := if ended then 0 else 1 }

/-! ## Directories -/

def tidied (cs : List Char) : List Char :=
  let parts := (cs.foldr (fun c ps => if c = '/' then [] :: ps else match ps with
    | [] => [[c]]
    | p :: rest => (c :: p) :: rest) [[]])
  let kept := parts.foldl (fun (kept : List (List Char)) p =>
    if p = [] ∨ p = ['.'] then kept else if p = ['.', '.'] then kept.drop 1 else p :: kept) []
  if kept = [] then ['/'] else kept.reverse.flatMap ('/' :: ·)

/-- Changes to a directory, to the one before, which is told, or to the home of the user. -/
def changeDirectory (arguments : List (List Char)) : Running m Unit := do
  let s ← get
  let operands := arguments.filter fun a => a ≠ ['-', 'P'] && a ≠ ['-', 'L'] && a ≠ ['-', '-']
  let back := operands.head? = some ['-']
  let target :=
    if back then (s.binding? "OLDPWD".toList).getD s.directory
    else operands.headD ((s.binding? "HOME".toList).getD s.directory)
  match ← Running.examine (if target = [] then ['.'] else target) with
  | some (.directory _) =>
    let place := tidied (if target.head? = some '/' then target else s.directory ++ '/' :: target)
    let s := (s.put "OLDPWD".toList s.directory).put "PWD".toList place
    set { s with directory := place, status := 0 }
    if back then Running.say (place ++ ['\n'])
  | _ => Running.setStatus 2

/-! ## Signals -/

/-- A signal by its number or its name, which one of the shells also takes with a mark in front. -/
def signal? (dialect : Dialect) (cs : List Char) : Option Nat :=
  let upper := cs.map Char.toUpper
  let name := if dialect = .plain ∧ "SIG".toList.isPrefixOf upper then upper.drop 3 else upper
  match number? cs with
  | some n => if n ≤ 64 then some n else none
  | none =>
    if name = "EXIT".toList then some 0
    else if dialect = .escaping ∧ name = "STKFLT".toList then none
    else Signal.number? (String.ofList name)

/-- Sends a signal to the shell. A trap is run instead of what the signal does by itself. -/
def receive (run : Run m) (n : Nat) : Running m Unit := do
  match (← get).traps.lookup n with
  | some action =>
    if n = 9 then Running.setFlow (.killed n)
    else
      let status := (← get).status
      source run action
      if (← get).flow = .next then Running.setStatus status
  | none => if Signal.isQuiet n then return () else Running.setFlow (.killed n)

def kill (run : Run m) (arguments : List (List Char)) : Running m Unit := do
  let dialect := (← get).dialect
  let (signal, targets) := match arguments with
    | ['-', 's'] :: name :: rest => (signal? dialect name, rest)
    | ('-' :: name) :: rest => (signal? dialect name, rest)
    | rest => (some 15, rest)
  match signal, arguments with
  | _, [['-', 'l'], number] =>
    match (number? number).bind (Signal.names.lookup ·) with
    | some name =>
      Running.say (name.toList ++ ['\n'])
      Running.setStatus 0
    | none => Running.setStatus 2
  | none, _ => Running.setStatus 2
  | some n, _ =>
    if targets = [] then Running.setStatus 2
    else if targets.contains Shell.processId || targets.contains ['0'] then
      Running.setStatus 0
      receive run n
    else Running.setStatus (if targets.any fun t => (Arithmetic.decimalOf? t).isNone then 2 else 1)

def trap (arguments : List (List Char)) : Running m Unit := do
  let dialect := (← get).dialect
  match arguments.filter (· ≠ ['-', '-']) with
  | [] => Running.setStatus 0
  | [one] =>
    match signal? dialect one with
    | some n => modify fun s => { s with traps := s.traps.filter (·.1 ≠ n), status := 0 }
    | none => Running.setStatus 2
  | action :: names =>
    match names.mapM (signal? dialect) with
    | none => Running.setStatus 1
    | some ns =>
      let others (s : Shell) := s.traps.filter (!ns.contains ·.1)
      modify fun s => { s with
        traps := if action = ['-'] then others s else ns.map (·, action) ++ others s
        status := 0 }

/-! ## By name -/

def test (ws : List (List Char)) : Running m Unit := do
  match ← Condition.holds? ws with
  | some true => Running.setStatus 0
  | some false => Running.setStatus 1
  | none => Running.setStatus 2

/-- A test between brackets, of which the closing one has to be there. -/
def bracket (ws : List (List Char)) : Running m Unit :=
  if ws.getLast? = some [']'] then test ws.dropLast else Running.setStatus 2

def tellDirectory : Running m Unit := do
  Running.say ((← get).directory ++ ['\n'])
  Running.setStatus 0

def dot (run : Run m) (arguments : List (List Char)) : Running m Unit := do
  match arguments with
  | [] => Running.setStatus 2
  | name :: _ =>
    if name.contains '/' then
      match ← Running.fileContent? name with
      | some content =>
        Running.setStatus 0
        source run content
        if (← get).flow = .back then Running.setFlow .next
      | none => Running.stop 2
    else Running.stop 2

def find? (run : Run m) (name : List Char) (arguments : List (List Char)) :
    Option (Running m Unit) :=
  match String.ofList name with
  | ":" | "wait" | "umask" | "ulimit" | "hash" | "times" => some (Running.setStatus 0)
  | "exit" => some (exit arguments)
  | "return" => some (back arguments)
  | "break" => some (leave false arguments)
  | "continue" => some (leave true arguments)
  | "export" => some (export_ arguments)
  | "readonly" => some (readonly arguments)
  | "local" => some (local_ arguments)
  | "unset" => some (unset arguments)
  | "set" => some (set_ arguments)
  | "shift" => some (shift arguments)
  | "read" => some (read_ arguments)
  | "getopts" => some (nextOption arguments)
  | "cd" => some (changeDirectory arguments)
  | "pwd" => some tellDirectory
  | "kill" => some (kill run arguments)
  | "trap" => some (trap arguments)
  | "test" => some (test arguments)
  | "[" => some (bracket arguments)
  | "." => some (dot run arguments)
  | "eval" => some do
    Running.setStatus 0
    source run ([' '].intercalate arguments)
  | _ => none

/-- Commands for which an assignment before them stays, and a failing redirection ends the shell. -/
def isSpecial (name : List Char) : Bool :=
  [":", "exit", "return", "break", "continue", "export", "readonly", "unset", "set", "shift", "trap",
    ".", "eval", "exec"].any fun s => s.toList = name

end Builtin

end ElfFacts.Script
