import ElfFacts.Script.Program

/-!
# Running scripts

One step runs a command and leaves the commands inside it to whoever runs the step; a bounded
number of steps, one inside another, runs a script.
-/
namespace ElfFacts.Script

namespace Running

variable {m : Type → Type} [Monad m]

open Builtin (Run)

/-! ## Words -/

/-- The text of a source that is run for it, without the line ends behind it. Nothing is run when
the shell is about to end. -/
def substitute (run : Run m) : Substitute m := fun cs => do
  if (← get).flow ≠ .next then return []
  let text ← capture (toEnd run (Builtin.source run cs))
  modify fun s => { s with substituted := some s.status }
  return (text.reverse.dropWhile (· = '\n')).reverse

def bits (run : Run m) (w : Word) : Running m (List Bit) := do
  return (← w.mapM (pieceBits (substitute run) 64)).flatten

def fields (run : Run m) (w : Word) : Running m (List (List Char)) := do
  let bits ← bits run w
  let fields := splitFields (← get).separators bits
  return (← fields.mapM fieldNames).flatten

def textOf (run : Run m) (w : Word) : Running m (List Char) := return Bit.text (← bits run w)

/-! ## Streams -/

/-- A stream by its number, or by the name of its file. -/
def sinkOf (name : List Char) : Running m (Option Sink) := do
  let s ← get
  if name = "/dev/null".toList then return some .nowhere
  else if name = "/dev/stdout".toList then return some (s.sink 1)
  else if name = "/dev/stderr".toList then return some (s.sink 2)
  else
    match ← examine name with
    | some (.directory _) => return none
    | _ => return some (.file name)

/-- Redirects a stream, and tells whether that went well. -/
def redirect (run : Run m) (r : Redirection) : Running m Bool := do
  let target ← textOf run r.target
  if (← get).flow ≠ .next then return false
  else
    match r.direction with
    | .document =>
      modify fun s => { s with input := target }
      return true
    | .input =>
      match ← fileContent? target with
      | some content =>
        modify fun s => { s with input := content }
        return true
      | none => return false
    | .duplicate =>
      match number? target with
      | some n => modify fun s => s.direct r.stream (s.sink n)
      | none => modify fun s => s.direct r.stream .nowhere
      return target = ['-'] || (number? target).isSome
    | .output | .append =>
      match ← sinkOf target with
      | none => return false
      | some sink =>
        modify fun s => s.direct r.stream sink
        match sink with
        | .file name =>
          let old ← if r.direction = .append then fileContent? name else pure none
          writeFile ((← get).place name) (old.getD [])
        | _ => return true

def redirectAll (run : Run m) : List Redirection → Running m Bool
  | [] => return true
  | r :: rest => do if ← redirect run r then redirectAll run rest else return false

/-! ## Simple commands -/

def deepestCall : Nat := 1000

/-- Runs a function. Its arguments and its local names are gone afterwards. -/
def callFunction (run : Run m) (body : Command) (arguments : List (List Char)) : Running m Unit := do
  let before ← get
  if deepestCall ≤ before.calls then stop 2
  else
    set { before with arguments, saved := some [], loops := 0, calls := before.calls + 1 }
    run body
    modify fun s =>
      let s := (s.saved.getD []).foldl (fun s (name, old) => match old with
        | some value => s.put name value
        | none => s.unset name) s
      { s with arguments := before.arguments, saved := before.saved, loops := before.loops,
               calls := before.calls, flow := if s.flow = .back then .next else s.flow }

def assignAll (run : Run m) : List (List Char × Word) → Running m Unit
  | [] => return ()
  | (name, w) :: rest => do
    let value ← textOf run w
    bind name value
    if (← get).flow = .next then assignAll run rest

/-- Programs that are part of the shell as well. -/
def ownPrograms : List String := ["echo", "printf", "true", "false"]

/-- What a name stands for, if anything: its own meaning, or the path of a program. -/
def describe (run : Run m) (name : List Char) : Running m (Option (List Char)) := do
  let s ← get
  if (s.functions.lookup name).isSome || (Builtin.find? run name []).isSome then return some name
  else if (ownPrograms ++ ["exec", "command", "type"] ++ Parser.keywords).any (·.toList = name) then
    return some name
  else if name.contains '/' && (← examine name).isNone then return none
  else programPath? run name

def explain (run : Run m) (name : List Char) : Running m (List Char) := do
  let s ← get
  let meaning ← describe run name
  return name ++ (match meaning with
    | none => ": not found"
    | some path =>
      if Parser.keywords.any (·.toList = name) then " is a shell keyword"
      else if (s.functions.lookup name).isSome then " is a shell function"
      else if Builtin.isSpecial name then " is a special shell builtin"
      else if path = name then " is a shell builtin"
      else " is " ++ String.ofList path).toList

def perform (run : Run m) (functions : Bool) : List (List Char) → Running m Unit
  | [] => return ()
  | name :: arguments => do
    let s ← get
    match if functions then s.functions.lookup name else none with
    | some body => callFunction run body arguments
    | none =>
      match Builtin.find? run name arguments with
      | some action => action
      | none =>
        match String.ofList name, arguments with
        | "exec", [] => setStatus 0
        | "exec", rest =>
          perform run false rest
          modify fun s => { s with traps := [] }
          if (← get).flow = .next then setFlow .exit
        | "command", ['-', 'v'] :: names =>
          let known ← names.mapM (describe run)
          say (unlines (known.filterMap id))
          setStatus (if known.any Option.isNone then 127 else 0)
        | "type", names =>
          let known ← names.mapM (describe run)
          say (unlines (← names.mapM (explain run)))
          setStatus (if known.any Option.isNone then 127 else 0)
        | "command", ['-', 'p'] :: rest => perform run false rest
        | "command", rest => perform run false rest
        | _, _ =>
          match if ownPrograms.any (·.toList = name) then answer? s.dialect name arguments else none with
          | some (text, status) =>
            say text
            setStatus status
          | none => start (launch run) run (name :: arguments)
termination_by fields => fields.length

def simple (run : Run m) (assignments : List (List Char × Word)) (words : List Word) :
    Running m Unit := do
  modify fun s => { s with substituted := none }
  let fields := (← words.mapM (fields run)).flatten
  if (← get).flow ≠ .next then return ()
  else
    match fields with
    | [] =>
      assignAll run assignments
      if (← get).flow = .next then modify fun s => { s with status := s.substituted.getD 0 }
    | name :: _ =>
      let before ← get
      assignAll run assignments
      if (← get).flow = .next then
        modify fun s => { s with exported := assignments.map (·.1) ++ s.exported }
        perform run true fields
        if !Builtin.isSpecial name then
          modify fun s => { s with exported := s.exported.drop assignments.length }
          for (name, _) in assignments do
            modify fun s => match before.binding? name with
              | some value => s.put name value
              | none => s.unset name
  checkFailure

/-! ## Commands -/

/-- What a loop does after its body: whether it goes on. -/
def afterBody : Running m Bool := modifyGet fun s =>
  match s.flow with
  | .next => (true, s)
  | .leave n again =>
    if 1 < n then (false, { s with flow := .leave (n - 1) again }) else (again, { s with flow := .next })
  | _ => (false, s)

def inLoop {α : Type} (action : Running m α) : Running m α := do
  modify fun s => { s with loops := s.loops + 1 }
  let a ← action
  modify fun s => { s with loops := s.loops - 1 }
  return a

def eachItem (run : Run m) (name : List Char) (body : Command) : List (List Char) → Running m Unit
  | [] => return ()
  | item :: rest => do
    bind name item
    if (← get).flow = .next then
      inLoop (run body)
      if ← afterBody then eachItem run name body rest

/-- The parts run one after another, each on what the one before has printed. -/
def pipeline (run : Run m) : List Command → Running m Unit
  | [] => return ()
  | [c] => apart (run c)
  | c :: rest => do
    let text ← capture (run c)
    if (← get).flow = .next then
      modify fun s => { s with input := text }
      pipeline run rest

def choose (run : Run m) (subject : List Char) : List (List Word × Command) → Running m Unit
  | [] => return ()
  | (patterns, body) :: rest => do
    let fitting ← patterns.anyM fun w => do
      return (Pattern.ofMarked (Bit.marked (← bits run w))).fits subject
    if (← get).flow ≠ .next then return ()
    else if fitting then run body
    else choose run subject rest

def isExec : Command → Bool
  | .simple _ [w] => w.literal? = some "exec".toList
  | _ => false

def isSpecial : Command → Bool
  | .simple _ (w :: _) => (w.literal?.map Builtin.isSpecial).getD false
  | _ => false

/-- Runs a command, all but the commands inside it. -/
def step (run : Run m) : Command → Running m Unit
  | .simple assignments words => simple run assignments words
  | .redirected c redirections => do
    let before ← get
    let fine ← redirectAll run redirections
    if (← get).flow = .next then
      if fine then run c else if isSpecial c then stop 2 else setStatus 2
    let readsElsewhere := redirections.any fun r => r.direction = .input || r.direction = .document
    if !(fine && isExec c) then
      modify fun s => { s with
        sinks := before.sinks, input := if readsElsewhere then before.input else s.input }
    if !fine then checkFailure
  | .pipeline parts => do
    let before := (← get).input
    pipeline run parts
    modify fun s => { s with input := before }
    checkFailure
  | .negated c => do
    inTest (run c)
    modify fun s => { s with status := if s.status = 0 then 1 else 0 }
  | .both a b => do
    inTest (run a)
    let s ← get
    if s.flow = .next ∧ s.status = 0 then run b
  | .either a b => do
    inTest (run a)
    let s ← get
    if s.flow = .next ∧ s.status ≠ 0 then run b
  | .background c => do
    apart (run c)
    setStatus 0
  | .block commands => for c in commands do
      if (← get).flow = .next then run c
  | .subshell body => do
    apart (toEnd run (run body))
    checkFailure
  | .branch condition yes no => do
    inTest (run condition)
    let s ← get
    if s.flow = .next then
      if s.status = 0 then run yes
      else
        setStatus 0
        run no
  | .loop failing condition body status => do
    inLoop (inTest (run condition))
    let s ← get
    if s.flow = .next ∧ (s.status = 0) = failing then setStatus status
    else
      if s.flow = .next then inLoop (run body)
      if ← afterBody then run (.loop failing condition body (← get).status)
  | .each name items body => do
    let fields ← match items with
      | some ws => pure (← ws.mapM (fields run)).flatten
      | none => pure (← get).arguments
    if (← get).flow = .next then
      setStatus 0
      eachItem run name body fields
  | .choice subject arms => do
    let text ← textOf run subject
    if (← get).flow = .next then
      setStatus 0
      choose run text arms
  | .define name body => modify fun s => { s with
      functions := (name, body) :: s.functions.filter (·.1 ≠ name), status := 0 }

/-- The number of steps bounds how deep commands lie in one another and how often loops run. -/
def run : (steps : Nat) → Run m
  | 0, _ => stop 2
  | steps + 1, c => step (run steps) c

def mostSteps : Nat := 1000000000

end Running

inductive Ending where
  | exit (status : Nat)
  | killed (signal : Nat)
  deriving DecidableEq, Repr

def execute {m : Type → Type} [Monad m] (surroundings : Surroundings m)
    (directory program : List Char) (arguments : List (List Char)) :
    m (Except Fault (Ending × List Char)) := do
  let start : Running m (Except Fault Unit) := do
    let run := Running.run Running.mostSteps
    match ← Running.programPath? run program with
    | none => return .error .missing
    | some path =>
      match ← Running.launch run path arguments with
      | .error fault => return .error fault
      | .ok action => return .ok (← action)
  let (result, s) ←
    start surroundings { directory, bindings := Running.usualVariables directory }
  let ending := match s.flow with
    | .killed n => .killed n
    | _ => .exit (s.status % 256)
  return result.map fun _ => (ending, (s.buffers.getLastD []).reverse)

def ofOctets (o : List UInt8) : List Char := o.map fun b => Char.ofNat b.toNat

def toOctets (cs : List Char) : List UInt8 := cs.map fun c => UInt8.ofNat c.toNat

end ElfFacts.Script
