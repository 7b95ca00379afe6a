import ElfFacts.Script.Command

/-!
# Patterns

A pattern fits a text as a whole. A star stands for any text, a question mark for one character and
a set in square brackets for one of its members.
-/
namespace ElfFacts.Script

inductive PatternItem where
  | one (c : Char)
  | any
  | many
  | set (negated : Bool) (ranges : List (Char × Char))
  deriving DecidableEq, Repr

abbrev Pattern := List PatternItem

def classRanges (name : List Char) : List (Char × Char) :=
  match String.ofList name with
  | "digit" => [('0', '9')]
  | "upper" => [('A', 'Z')]
  | "lower" => [('a', 'z')]
  | "alpha" => [('A', 'Z'), ('a', 'z')]
  | "alnum" => [('0', '9'), ('A', 'Z'), ('a', 'z')]
  | "xdigit" => [('0', '9'), ('A', 'F'), ('a', 'f')]
  | "space" => [('\t', '\r'), (' ', ' ')]
  | "blank" => [('\t', '\t'), (' ', ' ')]
  | "cntrl" => [('\x00', '\x1f'), ('\x7f', '\x7f')]
  | "print" => [(' ', '~')]
  | "graph" => [('!', '~')]
  | "punct" => [('!', '/'), (':', '@'), ('[', '`'), ('\x7b', '~')]
  | _ => []

def inSet (negated : Bool) (ranges : List (Char × Char)) (c : Char) : Bool :=
  (ranges.any fun r => decide (r.1 ≤ c ∧ c ≤ r.2)) != negated

/-- The members of a set up to its closing bracket, which cannot come first. -/
def setMembers : (fuel : Nat) → (first : Bool) → List Char → Option (List (Char × Char) × List Char)
  | 0, _, _ => none
  | _ + 1, _, [] => none
  | fuel + 1, first, c :: rest =>
    if c = ']' ∧ !first then some ([], rest)
    else
      let name := (rest.drop 1).takeWhile Char.isAlpha
      if c = '[' ∧ rest.head? = some ':' ∧ (rest.drop (name.length + 1)).take 2 = [':', ']'] then
        (setMembers fuel false (rest.drop (name.length + 3))).map fun (rs, rest) =>
          (classRanges name ++ rs, rest)
      else
        match rest with
        | '-' :: d :: rest' =>
          if d = ']' then (setMembers fuel false rest).map fun (rs, rest) => ((c, c) :: rs, rest)
          else (setMembers fuel false rest').map fun (rs, rest) => ((c, d) :: rs, rest)
        | _ => (setMembers fuel false rest).map fun (rs, rest) => ((c, c) :: rs, rest)

def set? (cs : List Char) : Option (Bool × List (Char × Char) × List Char) :=
  let negated := cs.head? = some '!' || cs.head? = some '^'
  let cs := if negated then cs.drop 1 else cs
  (setMembers (cs.length + 1) true cs).map fun (ranges, rest) => (negated, ranges, rest)

namespace Pattern

/-- A pattern from characters, of which the guarded ones stand for themselves. -/
def ofMarkedFrom : (fuel : Nat) → List (Char × Bool) → Pattern
  | 0, _ => []
  | _ + 1, [] => []
  | fuel + 1, (c, guarded) :: rest =>
    if guarded then .one c :: ofMarkedFrom fuel rest
    else if c = '*' then .many :: ofMarkedFrom fuel rest
    else if c = '?' then .any :: ofMarkedFrom fuel rest
    else if c = '[' then
      let plain := (rest.takeWhile fun p => !p.2 || p.1 ≠ '/').map (·.1)
      match set? plain with
      | some (negated, ranges, left) =>
        .set negated ranges :: ofMarkedFrom fuel (rest.drop (plain.length - left.length))
      | none => .one c :: ofMarkedFrom fuel rest
    else .one c :: ofMarkedFrom fuel rest

def ofMarked (cs : List (Char × Bool)) : Pattern := ofMarkedFrom (cs.length + 1) cs

def isMagic (cs : List (Char × Bool)) : Bool :=
  (ofMarked cs).any fun
    | .one _ => false
    | _ => true

def fits : Pattern → List Char → Bool
  | [], cs => cs.isEmpty
  | .many :: p, [] => fits p []
  | .many :: p, c :: cs => fits p (c :: cs) || fits (.many :: p) cs
  | _ :: _, [] => false
  | .one d :: p, c :: cs => c == d && fits p cs
  | .any :: p, _ :: cs => fits p cs
  | .set negated ranges :: p, c :: cs => inSet negated ranges c && fits p cs
termination_by p cs => (p.length, cs.length)

/-- How much of the start of a text fits: as much or as little as possible. -/
def startLength? (p : Pattern) (longest : Bool) (cs : List Char) : Option Nat :=
  let lengths := List.range (cs.length + 1)
  (if longest then lengths.reverse else lengths).find? fun n => p.fits (cs.take n)

def cutStart (p : Pattern) (longest : Bool) (cs : List Char) : List Char :=
  cs.drop ((p.startLength? longest cs).getD 0)

def cutEnd (p : Pattern) (longest : Bool) (cs : List Char) : List Char :=
  let kept := List.range (cs.length + 1)
  match (if longest then kept else kept.reverse).find? fun n => p.fits (cs.drop n) with
  | some n => cs.take n
  | none => cs

end Pattern

end ElfFacts.Script
