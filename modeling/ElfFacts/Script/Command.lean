/-!
# Shell commands

What a shell script says, once it is read. A word is a row of pieces, which are expanded when the
command runs. What stands inside a substitution is kept as text and read at that time. Octets
stand for themselves, as the characters with the same numbers.
-/
namespace ElfFacts.Script

/-- What is done with the value of a parameter. Where `orEmpty` is set, an empty value counts as
none. -/
inductive Change where
  | whole
  | length
  | default (orEmpty : Bool) (operand : List Char)
  | assign (orEmpty : Bool) (operand : List Char)
  | require (orEmpty : Bool)
  | replace (orEmpty : Bool) (operand : List Char)
  | cutStart (longest : Bool) (pattern : List Char)
  | cutEnd (longest : Bool) (pattern : List Char)
  deriving DecidableEq, Repr

inductive Piece where
  | text (cs : List Char) (quoted : Bool)
  | parameter (name : List Char) (change : Change) (quoted : Bool)
  | command (source : List Char) (quoted : Bool)
  | arithmetic (source : List Char) (quoted : Bool)
  deriving DecidableEq, Repr

abbrev Word := List Piece

namespace Word

def literal? : Word → Option (List Char)
  | [] => some []
  | .text cs false :: rest => (literal? rest).map (cs ++ ·)
  | _ :: _ => none

/-- The text of a word as it stands, without its quotes. -/
def bare (w : Word) : List Char :=
  w.flatMap fun
    | .text cs _ => cs
    | _ => []

def isQuoted (w : Word) : Bool :=
  w.any fun
    | .text _ quoted => quoted
    | _ => false

end Word

inductive Direction where
  | input
  | output
  | append
  /-- The number of another stream follows. -/
  | duplicate
  /-- The text itself follows. -/
  | document
  deriving DecidableEq, Repr

structure Redirection where
  stream : Nat
  direction : Direction
  target : Word
  deriving DecidableEq, Repr

inductive Command where
  | simple (assignments : List (List Char × Word)) (words : List Word)
  | redirected (command : Command) (redirections : List Redirection)
  | pipeline (parts : List Command)
  | negated (command : Command)
  | both (first second : Command)
  | either (first second : Command)
  | background (command : Command)
  | block (commands : List Command)
  | subshell (body : Command)
  | branch (condition yes no : Command)
  /-- Runs as long as the condition holds, or as long as it fails. The status is that of the loop
  if it ends now. -/
  | loop (failing : Bool) (condition body : Command) (status : Nat)
  /-- Without items, the arguments are gone through. -/
  | each (name : List Char) (items : Option (List Word)) (body : Command)
  | choice (subject : Word) (arms : List (List Word × Command))
  | define (name : List Char) (body : Command)
  deriving Inhabited

def Command.nothing : Command := .block []

/-! ## Characters -/

def isBlank (c : Char) : Bool := c = ' ' || c = '\t'

def isNameStart (c : Char) : Bool := c.isAlpha || c = '_'

def isNameChar (c : Char) : Bool := c.isAlphanum || c = '_'

def isName (cs : List Char) : Bool := cs.head?.elim false isNameStart && cs.all isNameChar

/-- Parameters that are one character long. -/
def isSpecial (c : Char) : Bool := c.isDigit || ['#', '@', '*', '$', '?', '!', '-'].contains c

def endsWord (c : Char) : Bool :=
  isBlank c || ['\n', ';', '&', '|', '<', '>', '(', ')'].contains c

def number? (cs : List Char) : Option Nat :=
  if cs ≠ [] ∧ cs.all Char.isDigit then some (Nat.ofDigitChars 10 cs 0) else none

def decimal (n : Nat) : List Char := Nat.toDigits 10 n

def assignment? (cs : List Char) : Option (List Char × List Char) :=
  let name := cs.takeWhile isNameChar
  match cs.drop name.length with
  | '=' :: value => if isName name then some (name, value) else none
  | _ => none

/-- Lines without what ends them; a last line need not be ended. -/
def lines (cs : List Char) : List (List Char) :=
  match cs.foldr (fun c (done, line) => if c = '\n' then (line :: done, []) else (done, c :: line))
      (([], []) : List (List Char) × List Char) with
  | (done, line) => if cs = [] then [] else
    let all := line :: done
    if cs.getLast? = some '\n' then all.dropLast else all

/-- Lines with what ends them. -/
def fullLines : List Char → List (List Char)
  | [] => []
  | c :: rest =>
    if c = '\n' then ['\n'] :: fullLines rest
    else
      match fullLines rest with
      | [] => [[c]]
      | line :: more => (c :: line) :: more

def unlines (ls : List (List Char)) : List Char := ls.flatMap (· ++ ['\n'])

end ElfFacts.Script
