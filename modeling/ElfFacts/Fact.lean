/-!
# Ground facts

A fact is a predicate applied to texts and 64-bit integers. It is written as one line that ends in
a full stop; text arguments stand in quotes.
-/
namespace ElfFacts

def maxNumber : Nat := 9223372036854775807

inductive Argument where
  | text (s : String)
  | number (n : Int)
  deriving DecidableEq, Repr

namespace Argument

/-- A count or a size; what is too large is reported as the largest integer. -/
def ofNat (n : Nat) : Argument := .number (min n maxNumber : Nat)

def ofBool (b : Bool) : Argument := .text (if b then "true" else "false")

/-- Quotes and backslashes are escaped, and a line feed does not end the line. -/
def escape (c : Char) : List Char :=
  if c = '"' then ['\\', '"']
  else if c = '\\' then ['\\', '\\']
  else if c = '\n' then ['\\', 'n']
  else [c]

def chars : Argument → List Char
  | .text s => '"' :: (s.toList.flatMap escape ++ ['"'])
  | .number n => (toString n).toList

def text? : Argument → Option String
  | .text s => some s
  | .number _ => none

def number? : Argument → Option Int
  | .text _ => none
  | .number n => some n

end Argument

structure Fact where
  predicate : String
  arguments : List Argument
  deriving DecidableEq, Repr

namespace Fact

def commaSeparated : List (List Char) → List Char
  | [] => []
  | [a] => a
  | a :: b :: rest => a ++ ',' :: commaSeparated (b :: rest)

def chars (f : Fact) : List Char :=
  f.predicate.toList ++
    (if f.arguments = [] then [] else '(' :: (commaSeparated (f.arguments.map Argument.chars) ++ [')'])) ++
    ['.']

def render (f : Fact) : String := String.ofList f.chars

def text? (f : Fact) (i : Nat) : Option String := f.arguments[i]?.bind Argument.text?

def number? (f : Fact) (i : Nat) : Option Int := f.arguments[i]?.bind Argument.number?

theorem chars_of_arguments_nil (f : Fact) (h : f.arguments = []) :
    f.chars = f.predicate.toList ++ ['.'] := by
  simp [chars, h]

end Fact

end ElfFacts
