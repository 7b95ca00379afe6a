import ElfFacts.Script.Command

/-!
# Arithmetic

Expressions over integers of 64 bits, with the operators and the precedence that C has. A name
stands for its value as a number, and can be given a value.
-/
namespace ElfFacts.Script

namespace Arithmetic

inductive Expression where
  | number (n : Int)
  | name (cs : List Char)
  | unary (operator : List Char) (e : Expression)
  | binary (operator : List Char) (a b : Expression)
  | choice (condition yes no : Expression)
  | assign (name : List Char) (operator : List Char) (value : Expression)
  deriving Inhabited

inductive Lexeme where
  | number (n : Int)
  | name (cs : List Char)
  | sign (cs : List Char)
  deriving DecidableEq

def wrap (n : Int) : Int := Int.bmod n 18446744073709551616

def digitValue (c : Char) : Nat :=
  if c.isDigit then c.toNat - '0'.toNat
  else if 'a' ≤ c ∧ c ≤ 'f' then c.toNat - 'a'.toNat + 10
  else if 'A' ≤ c ∧ c ≤ 'F' then c.toNat - 'A'.toNat + 10
  else 99

/-- A number in base ten, or in base eight or sixteen after a mark. -/
def integer? (cs : List Char) : Option Int :=
  let read (base : Nat) (ds : List Char) : Option Int :=
    if ds ≠ [] ∧ ds.all (digitValue · < base) then
      some (wrap (ds.foldl (fun n d => n * base + digitValue d) 0 : Nat))
    else none
  match cs with
  | '0' :: 'x' :: ds | '0' :: 'X' :: ds => read 16 ds
  | '0' :: d :: ds => read 8 (d :: ds)
  | ds => read 10 ds

/-- Signs; of two that fit the longer stands first. -/
def signs : List (List Char) := ["<<=", ">>=", "<<", ">>", "<=", ">=", "==", "!=", "&&", "||", "+=", "-=",
  "*=", "/=", "%=", "&=", "|=", "^=", "+", "-", "*", "/", "%", "<", ">", "=", "!", "&", "|", "^", "~", "?",
  ":", "(", ")"].map String.toList

def lexemesFrom : (fuel : Nat) → List Char → Option (List Lexeme)
  | 0, _ => none
  | _ + 1, [] => some []
  | fuel + 1, c :: rest =>
    let cs := c :: rest
    if isBlank c ∨ c = '\n' then lexemesFrom fuel rest
    else if c.isDigit then do
      let text := cs.takeWhile Char.isAlphanum
      let n ← integer? text
      return .number n :: (← lexemesFrom fuel (cs.drop text.length))
    else if isNameStart c then do
      let name := cs.takeWhile isNameChar
      return .name name :: (← lexemesFrom fuel (cs.drop name.length))
    else do
      let s ← signs.find? (·.isPrefixOf cs)
      return .sign s :: (← lexemesFrom fuel (cs.drop s.length))

def tightness? (sign : List Char) : Option Nat :=
  match String.ofList sign with
  | "||" => some 1
  | "&&" => some 2
  | "|" => some 3
  | "^" => some 4
  | "&" => some 5
  | "==" | "!=" => some 6
  | "<" | ">" | "<=" | ">=" => some 7
  | "<<" | ">>" => some 8
  | "+" | "-" => some 9
  | "*" | "/" | "%" => some 10
  | _ => none

abbrev Reader := StateT (List Lexeme) Option

def accept (sign : List Char) : Reader Bool := fun ls =>
  some (if ls.head? = some (.sign sign) then (true, ls.drop 1) else (false, ls))

def expect (sign : List Char) : Reader Unit := fun ls =>
  if ls.head? = some (.sign sign) then some ((), ls.drop 1) else none

mutual

def expression : (fuel : Nat) → Reader Expression
  | 0 => fun _ => none
  | fuel + 1 => do
    match ← get with
    | .name n :: .sign s :: rest =>
      if s.getLast? = some '=' ∧ (tightness? s).isNone then
        set rest
        return .assign n s.dropLast (← expression fuel)
      else choice fuel
    | _ => choice fuel

def choice : (fuel : Nat) → Reader Expression
  | 0 => fun _ => none
  | fuel + 1 => do
    let condition ← operation fuel 1
    if ← accept ['?'] then
      let yes ← expression fuel
      expect [':']
      return .choice condition yes (← choice fuel)
    else return condition

/-- Operands joined by operators that bind at least so tightly. -/
def operation : (fuel : Nat) → (least : Nat) → Reader Expression
  | 0, _ => fun _ => none
  | fuel + 1, least => do further fuel least (← operand fuel)

def further : (fuel : Nat) → (least : Nat) → Expression → Reader Expression
  | 0, _, _ => fun _ => none
  | fuel + 1, least, left => do
    match ← get with
    | .sign s :: rest =>
      match tightness? s with
      | some t =>
        if least ≤ t then
          set rest
          let right ← operation fuel (t + 1)
          further fuel least (.binary s left right)
        else return left
      | none => return left
    | _ => return left

def operand : (fuel : Nat) → Reader Expression
  | 0 => fun _ => none
  | fuel + 1 => do
    match ← get with
    | .number n :: rest =>
      set rest
      return .number n
    | .name n :: rest =>
      set rest
      return .name n
    | .sign s :: rest =>
      set rest
      if s = ['('] then
        let e ← expression fuel
        expect [')']
        return e
      else if s = ['-'] ∨ s = ['+'] ∨ s = ['!'] ∨ s = ['~'] then
        return .unary s (← operand fuel)
      else fun _ => none
    | [] => fun _ => none

end

def truth (b : Bool) : Int := if b then 1 else 0

def bits (n : Int) : Nat := (n % 18446744073709551616).toNat

/-- Nothing comes of a division by zero. -/
def result? (operator : List Char) (a b : Int) : Option Int :=
  match String.ofList operator with
  | "+" => some (wrap (a + b))
  | "-" => some (wrap (a - b))
  | "*" => some (wrap (a * b))
  | "/" => if b = 0 then none else some (wrap (Int.tdiv a b))
  | "%" => if b = 0 then none else some (wrap (Int.tmod a b))
  | "<<" => some (wrap (a * ((1 <<< (bits b % 64) : Nat) : Int)))
  | ">>" => some (a >>> (bits b % 64))
  | "<" => some (truth (a < b))
  | ">" => some (truth (b < a))
  | "<=" => some (truth (a ≤ b))
  | ">=" => some (truth (b ≤ a))
  | "==" => some (truth (a = b))
  | "!=" => some (truth (a ≠ b))
  | "&" => some (wrap (Nat.land (bits a) (bits b)))
  | "|" => some (wrap (Nat.lor (bits a) (bits b)))
  | "^" => some (wrap (Nat.xor (bits a) (bits b)))
  | _ => none

/-- Values of names, the latest first. -/
abbrev Bindings := List (List Char × List Char)

def decimal (n : Int) : List Char :=
  if n < 0 then '-' :: Nat.toDigits 10 n.natAbs else Nat.toDigits 10 n.natAbs

/-- A number with its sign, which may have blanks around it. -/
def signedBy (read : List Char → Option Int) (cs : List Char) : Option Int :=
  match (cs.dropWhile Char.isWhitespace).reverse.dropWhile Char.isWhitespace |>.reverse with
  | '-' :: ds => (read ds).map fun n => wrap (-n)
  | '+' :: ds => read ds
  | ds => read ds

/-- A value as a number; nothing counts as zero. -/
def valueOf? (cs : List Char) : Option Int :=
  if cs.all Char.isWhitespace then some 0 else signedBy integer? cs

def decimalOf? (cs : List Char) : Option Int :=
  signedBy (fun ds => (number? ds).bind fun n => if n < 9223372036854775808 then some n else none) cs

def eval : Expression → StateT Bindings Option Int
  | .number n => return n
  | .name cs => do
    match (← get).lookup cs with
    | none => return 0
    | some v => valueOf? v
  | .unary s e => do
    let n ← eval e
    return if s = ['-'] then wrap (-n) else if s = ['!'] then truth (n = 0)
      else if s = ['~'] then -n - 1 else n
  | .binary s a b => do
    let m ← eval a
    if s = ['&', '&'] then
      if m = 0 then return 0 else return truth ((← eval b) ≠ 0)
    else if s = ['|', '|'] then
      if m ≠ 0 then return 1 else return truth ((← eval b) ≠ 0)
    else result? s m (← eval b)
  | .choice condition yes no => do if (← eval condition) ≠ 0 then eval yes else eval no
  | .assign name s e => do
    let n ← eval e
    let result : Int ←
      if s = [] then pure n
      else do
        let old ← match (← get).lookup name with
          | none => pure 0
          | some v => (valueOf? v : Option Int)
        result? s old n
    modify ((name, decimal result) :: ·)
    return result

def evaluate? (cs : List Char) (bindings : Bindings) : Option (Int × Bindings) := do
  let ls ← lexemesFrom (cs.length + 1) cs
  if ls = [] then return (0, bindings)
  else
    let (e, rest) ← expression (8 * ls.length + 8) ls
    if rest = [] then eval e bindings else none

end Arithmetic

end ElfFacts.Script
