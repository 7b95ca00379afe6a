import ElfFacts.Script.Shell

/-!
# Conditions

What a test says about texts, numbers and files. A condition that cannot be understood is neither
true nor false.
-/
namespace ElfFacts.Script

namespace Condition

variable {m : Type → Type} [Monad m]

def unary? (letter : Char) (x : List Char) : Option (Running m Bool) :=
  let seen (p : Seen → Bool) : Running m Bool := do return (← Running.examine x).elim false p
  match letter with
  | 'n' => some (return x ≠ [])
  | 'z' => some (return x = [])
  | 'e' | 'r' | 'w' | 'a' => some (seen fun _ => true)
  | 'f' => some (seen fun
    | .file .. => true
    | .directory _ => false)
  | 'd' => some (seen fun
    | .file .. => false
    | .directory _ => true)
  | 'x' => some (seen fun
    | .file _ executable => executable
    | .directory _ => true)
  | 's' => some (seen fun
    | .file content _ => content ≠ []
    | .directory _ => true)
  | 'L' | 'h' | 'p' | 'b' | 'c' | 'S' | 't' | 'u' | 'g' | 'k' => some (return false)
  | _ => none

def isUnary (x : List Char) : Option Char :=
  match x with
  | ['-', c] => if ((unary? c [] : Option (Running Id Bool))).isSome then some c else none
  | _ => none

def binary? (dialect : Dialect) (sign x y : List Char) : Option (Option Bool) :=
  let compared (p : Int → Int → Bool) : Option (Option Bool) :=
    some do return p (← Arithmetic.decimalOf? x) (← Arithmetic.decimalOf? y)
  match String.ofList sign with
  | "=" => some (some (x = y))
  | "==" => if dialect = .plain then some (some (x = y)) else none
  | "!=" => some (some (x ≠ y))
  | "<" => some (some (decide (x < y)))
  | ">" => some (some (decide (y < x)))
  | "-eq" => compared (· == ·)
  | "-ne" => compared (· != ·)
  | "-lt" => compared fun a b => a < b
  | "-le" => compared fun a b => a ≤ b
  | "-gt" => compared fun a b => b < a
  | "-ge" => compared fun a b => b ≤ a
  | _ => none

/-- The truth of the words and what is left of them. -/
abbrev Reading (m : Type → Type) := Running m (Option (Bool × List (List Char)))

mutual

def disjunction : (fuel : Nat) → List (List Char) → Reading m
  | 0, _ => return none
  | fuel + 1, ws => do
    match ← conjunction fuel ws with
    | some (a, ['-', 'o'] :: rest) =>
      match ← disjunction fuel rest with
      | some (b, rest) => return some (a || b, rest)
      | none => return none
    | r => return r

def conjunction : (fuel : Nat) → List (List Char) → Reading m
  | 0, _ => return none
  | fuel + 1, ws => do
    match ← single fuel ws with
    | some (a, ['-', 'a'] :: rest) =>
      match ← conjunction fuel rest with
      | some (b, rest) => return some (a && b, rest)
      | none => return none
    | r => return r

def single : (fuel : Nat) → List (List Char) → Reading m
  | 0, _ => return none
  | fuel + 1, ws => do
    let dialect := (← get).dialect
    match ws with
    | [] => return none
    | [x] => return some (x ≠ [], [])
    | x :: sign :: rest =>
      match rest, (rest.head?.bind (binary? dialect sign x ·)) with
      | _ :: rest, some truth => return truth.map fun b => (b, rest)
      | _, _ =>
        if x = ['!'] then return (← single fuel (sign :: rest)).map fun (b, rest) => (!b, rest)
        else if x = ['('] then
          match ← disjunction fuel (sign :: rest) with
          | some (b, [')'] :: rest) => return some (b, rest)
          | _ => return none
        else
          match isUnary x with
          | some c =>
            match unary? c sign with
            | some truth => return some (← truth, rest)
            | none => return none
          | none => return some (x ≠ [], sign :: rest)

end

def holds? (ws : List (List Char)) : Running m (Option Bool) := do
  if ws = [] then return some false
  else
    match ← disjunction (4 * ws.length + 4) ws with
    | some (b, []) => return some b
    | _ => return none

end Condition

end ElfFacts.Script
