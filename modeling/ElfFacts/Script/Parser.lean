import ElfFacts.Script.Token

/-!
# Reading commands

Commands from tokens. Words have a special meaning only where a command can start. A script is
read line by line, so that lines before a mistake still run.
-/
namespace ElfFacts.Script

abbrev Parser := StateT (List Token) Option

namespace Parser

def fail {α : Type} : Parser α := fun _ => none

def peek : Parser (Option Token) := fun ts => some (ts.head?, ts)

def skip : Parser Unit := fun ts => some ((), ts.drop 1)

def acceptSign (cs : List Char) : Parser Bool := fun ts =>
  match ts with
  | .sign s :: rest => some (if s = cs then (true, rest) else (false, ts))
  | _ => some (false, ts)

def expectSign (cs : List Char) : Parser Unit := do if !(← acceptSign cs) then fail

def acceptNewLine : Parser Bool := fun ts =>
  match ts with
  | .newLine :: rest => some (true, rest)
  | _ => some (false, ts)

def skipNewLines : Parser Unit := fun ts => some ((), ts.dropWhile (· = .newLine))

def peekLiteral : Parser (List Char) := fun ts =>
  match ts with
  | .word w :: _ => some (w.literal?.getD [], ts)
  | _ => some ([], ts)

def acceptWord (text : String) : Parser Bool := do
  if (← peekLiteral) = text.toList then
    skip
    return true
  else return false

def expectWord (text : String) : Parser Unit := do if !(← acceptWord text) then fail

def word : Parser Word := fun ts =>
  match ts with
  | .word w :: rest => some (w, rest)
  | _ => none

def redirection? : Parser (Option Redirection) := fun ts =>
  match ts with
  | .redirect stream direction :: .word target :: rest =>
    some (some ⟨stream, direction, target⟩, rest)
  | .redirect .. :: _ => none
  | _ => some (none, ts)

def redirections : (fuel : Nat) → Parser (List Redirection)
  | 0 => return []
  | fuel + 1 => do
    match ← redirection? with
    | none => return []
    | some r => return r :: (← redirections fuel)

def withRedirections (fuel : Nat) (c : Command) : Parser Command := do
  let rs ← redirections fuel
  return if rs = [] then c else .redirected c rs

def closers : List String := ["then", "do", "done", "fi", "elif", "else", "esac", "\x7d"]

def keywords : List String :=
  closers ++ ["if", "while", "until", "for", "case", "in", "\x7b", "!"]

def atEnd : Parser Bool := fun ts =>
  match ts with
  | [] => some (true, ts)
  | .sign s :: _ => some (s = [')'] || s = [';', ';'], ts)
  | .word w :: _ => some (closers.any fun c => w.literal? = some c.toList, ts)
  | _ => some (false, ts)

structure Parts where
  assignments : List (List Char × Word) := []
  words : List Word := []
  redirections : List Redirection := []

def Parts.command (p : Parts) : Option Command :=
  if p.assignments = [] ∧ p.words = [] ∧ p.redirections = [] then none
  else
    let c := Command.simple p.assignments p.words
    some (if p.redirections = [] then c else .redirected c p.redirections)

def partsFrom : (fuel : Nat) → Parts → Parser Parts
  | 0, p => return p
  | fuel + 1, p => do
    match ← redirection? with
    | some r => partsFrom fuel { p with redirections := p.redirections ++ [r] }
    | none =>
      match ← peek with
      | some (.word w) =>
        skip
        match if p.words = [] then w.assignment? else none with
        | some a => partsFrom fuel { p with assignments := p.assignments ++ [a] }
        | none => partsFrom fuel { p with words := p.words ++ [w] }
      | _ => return p

def simple (fuel : Nat) : Parser Command := do (← partsFrom fuel {}).command

def itemsFrom : (fuel : Nat) → Parser (List Word)
  | 0 => return []
  | fuel + 1 => do
    match ← peek with
    | some (.word w) =>
      skip
      return w :: (← itemsFrom fuel)
    | _ => return []

def patternsFrom : (fuel : Nat) → Parser (List Word)
  | 0 => fail
  | fuel + 1 => do
    let w ← word
    if ← acceptSign ['|'] then return w :: (← patternsFrom fuel) else return [w]

/-- A function is defined by its name and a pair of brackets. -/
def definedName? : Parser (Option (List Char)) := fun ts =>
  match ts with
  | .word w :: .sign ['('] :: .sign [')'] :: rest =>
    match w.literal? with
    | some name => some (some name, rest.dropWhile (· = .newLine))
    | none => none
  | _ => some (none, ts)

mutual

/-- Commands joined by signs, up to the end of the line or, if `across` is set, to something that
ends them. -/
def commandsFrom (across : Bool) : (fuel : Nat) → Parser (List Command)
  | 0 => fail
  | fuel + 1 => do
    if across then skipNewLines
    if (← atEnd) || (← peek) = some .newLine then return []
    else
      let c ← andOr fuel
      if ← acceptSign [';'] then return c :: (← commandsFrom across fuel)
      else if ← acceptSign ['&'] then return .background c :: (← commandsFrom across fuel)
      else if across then
        if ← acceptNewLine then return c :: (← commandsFrom across fuel)
        else if ← atEnd then return [c]
        else fail
      else return [c]

def andOr : (fuel : Nat) → Parser Command
  | 0 => fail
  | fuel + 1 => do joined fuel (← pipeline fuel)

def joined : (fuel : Nat) → Command → Parser Command
  | 0, _ => fail
  | fuel + 1, first => do
    if ← acceptSign ['&', '&'] then
      skipNewLines
      joined fuel (.both first (← pipeline fuel))
    else if ← acceptSign ['|', '|'] then
      skipNewLines
      joined fuel (.either first (← pipeline fuel))
    else return first

def pipeline : (fuel : Nat) → Parser Command
  | 0 => fail
  | fuel + 1 => do
    let negated ← acceptWord "!"
    let c := match ← partsOfPipeline fuel with
      | [c] => c
      | cs => .pipeline cs
    return if negated then .negated c else c

def partsOfPipeline : (fuel : Nat) → Parser (List Command)
  | 0 => fail
  | fuel + 1 => do
    let c ← command fuel
    if ← acceptSign ['|'] then
      skipNewLines
      return c :: (← partsOfPipeline fuel)
    else return [c]

/-- At least one command, and the word that ends it. -/
def blockUpTo (closer : String) : (fuel : Nat) → Parser Command
  | 0 => fail
  | fuel + 1 => do
    let c ← someBlock fuel
    expectWord closer
    return c

def someBlock : (fuel : Nat) → Parser Command
  | 0 => fail
  | fuel + 1 => do
    let cs ← commandsFrom true fuel
    if cs.isEmpty then fail else return .block cs

def command : (fuel : Nat) → Parser Command
  | 0 => fail
  | fuel + 1 => do
    if ← acceptSign ['('] then
      let body ← someBlock fuel
      expectSign [')']
      withRedirections fuel (.subshell body)
    else if ← acceptWord "\x7b" then withRedirections fuel (← blockUpTo "\x7d" fuel)
    else if ← acceptWord "if" then withRedirections fuel (← branch fuel)
    else if ← acceptWord "while" then withRedirections fuel (← loop false fuel)
    else if ← acceptWord "until" then withRedirections fuel (← loop true fuel)
    else if ← acceptWord "for" then withRedirections fuel (← each fuel)
    else if ← acceptWord "case" then withRedirections fuel (← choice fuel)
    else
      match ← definedName? with
      | some name => return .define name (← command fuel)
      | none => if (← atEnd) || (← peekLiteral) = ['!'] then fail else simple ((← get).length + 1)

def branch : (fuel : Nat) → Parser Command
  | 0 => fail
  | fuel + 1 => do
    let condition ← blockUpTo "then" fuel
    let yes ← someBlock fuel
    if ← acceptWord "elif" then return .branch condition yes (← branch fuel)
    else if ← acceptWord "else" then return .branch condition yes (← blockUpTo "fi" fuel)
    else
      expectWord "fi"
      return .branch condition yes .nothing

def loop (failing : Bool) : (fuel : Nat) → Parser Command
  | 0 => fail
  | fuel + 1 => do
    let condition ← blockUpTo "do" fuel
    return .loop failing condition (← blockUpTo "done" fuel) 0

def each : (fuel : Nat) → Parser Command
  | 0 => fail
  | fuel + 1 => do
    let name ← (← word).literal?
    if !isName name then fail
    skipNewLines
    let items ← if ← acceptWord "in" then some <$> itemsFrom (fuel + 1) else pure none
    let _ ← acceptSign [';']
    skipNewLines
    expectWord "do"
    return .each name items (← blockUpTo "done" fuel)

def choice : (fuel : Nat) → Parser Command
  | 0 => fail
  | fuel + 1 => do
    let subject ← word
    skipNewLines
    expectWord "in"
    return .choice subject (← arms fuel)

def arms : (fuel : Nat) → Parser (List (List Word × Command))
  | 0 => fail
  | fuel + 1 => do
    skipNewLines
    if ← acceptWord "esac" then return []
    else
      let _ ← acceptSign ['(']
      let patterns ← patternsFrom fuel
      expectSign [')']
      let body := Command.block (← commandsFrom true fuel)
      if ← acceptSign [';', ';'] then return (patterns, body) :: (← arms fuel)
      else
        expectWord "esac"
        return [(patterns, body)]

end

def line (fuel : Nat) : Parser Command := do
  let cs ← commandsFrom false fuel
  if (← acceptNewLine) || (← peek).isNone then return .block cs else fail

def linesFrom : (fuel : Nat) → List Token → List Command × Bool
  | 0, _ => ([], false)
  | fuel + 1, ts =>
    if ts = [] then ([], true)
    else
      match line (8 * ts.length + 8) ts with
      | none => ([], false)
      | some (c, rest) =>
        let (cs, whole) := linesFrom fuel rest
        (c :: cs, whole)

end Parser

def script (cs : List Char) : List Command × Bool :=
  let ts := tokens cs
  Parser.linesFrom (ts.length + 1) ts

end ElfFacts.Script
