import ElfFacts.Script.Arithmetic

/-!
# Escapes and formats

What the commands print that take escapes or a format: a format is filled as often as it takes to
use every argument.
-/
namespace ElfFacts.Script

/-- Which shell reads a script. They differ in whether plain text has escapes when it is printed. -/
inductive Dialect where
  | plain
  | escaping
  deriving DecidableEq, Repr

namespace Format

def letterEscape? : Char → Option Char
  | 'n' => some '\n'
  | 't' => some '\t'
  | 'r' => some '\r'
  | 'a' => some '\x07'
  | 'b' => some '\x08'
  | 'f' => some '\x0c'
  | 'v' => some '\x0b'
  | '\\' => some '\\'
  | _ => none

def isOctal (c : Char) : Bool := '0' ≤ c && c ≤ '7'

/-- The character with an octal number, and how many of at most `most` digits it takes. -/
def octal (most : Nat) (digits : List Char) : Char × Nat :=
  let used := (digits.take most).takeWhile isOctal
  (Char.ofNat (used.foldl (fun n c => n * 8 + (c.toNat - '0'.toNat)) 0 % 256), used.length)

/-- Replaces escapes. With `zero`, an octal number can have a zero before it, and an escape ends
the text, which is told. -/
def unescapeFrom (zero : Bool) : (fuel : Nat) → List Char → List Char × Bool
  | 0, cs => (cs, false)
  | _ + 1, [] => ([], false)
  | fuel + 1, '\\' :: c :: rest =>
    let add (e : Char) (r : List Char × Bool) := (e :: r.1, r.2)
    match letterEscape? c with
    | some e => add e (unescapeFrom zero fuel rest)
    | none =>
      if zero && c = 'c' then ([], true)
      else if zero && c = '0' then
        let (e, n) := octal 3 rest
        add e (unescapeFrom zero fuel (rest.drop n))
      else if isOctal c then
        let (e, n) := octal 3 (c :: rest)
        add e (unescapeFrom zero fuel (rest.drop (n - 1)))
      else add '\\' (unescapeFrom zero fuel (c :: rest))
  | fuel + 1, c :: rest =>
    let (cs, ended) := unescapeFrom zero fuel rest
    (c :: cs, ended)

def unescape (zero : Bool) (cs : List Char) : List Char × Bool :=
  unescapeFrom zero (cs.length + 1) cs

def echo (dialect : Dialect) (arguments : List (List Char)) : List Char :=
  let isOption (a : List Char) : Bool := dialect = .plain &&
    (a.head? = some '-' && 1 < a.length && (a.drop 1).all (['n', 'e', 'E'].contains ·))
  let options := if dialect = .plain then arguments.takeWhile isOption else
    (arguments.take 1).filter (· = ['-', 'n'])
  let letters := options.flatMap (·.drop 1)
  let text := [' '].intercalate (arguments.drop options.length)
  let escapes := dialect = .escaping ||
    ((letters.filter (· ≠ 'n')).getLast? = some 'e')
  let (text, ended) := if escapes then unescape true text else (text, false)
  if ended || letters.contains 'n' then text else text ++ ['\n']

structure Spec where
  flags : List Char
  width : Nat
  precision : Option Nat
  conversion : Char

def pad (s : Spec) (left : Bool) (cs : List Char) : List Char :=
  let fill := List.replicate (s.width - cs.length) ' '
  if left then cs ++ fill else fill ++ cs

def digits (base : Nat) (upper : Bool) (n : Nat) : List Char :=
  let ds := Nat.toDigits base n
  if upper then ds.map Char.toUpper else ds

/-- A number with its sign and mark, filled up with zeros or blanks. -/
def integer (s : Spec) (n : Int) : List Char :=
  let signed := s.conversion = 'd' || s.conversion = 'i'
  let magnitude := if signed then n.natAbs else Arithmetic.bits n
  let base := if s.conversion = 'x' ∨ s.conversion = 'X' then 16 else if s.conversion = 'o' then 8 else 10
  let body := digits base (s.conversion = 'X') magnitude
  let body := List.replicate (s.precision.getD 1 - body.length) '0' ++ body
  let body := if s.conversion = 'o' ∧ s.flags.contains '#' ∧ body.head? ≠ some '0' then '0' :: body else body
  let sign : List Char :=
    if signed then
      if n < 0 then ['-'] else if s.flags.contains '+' then ['+']
      else if s.flags.contains ' ' then [' '] else []
    else if s.flags.contains '#' ∧ base = 16 ∧ magnitude ≠ 0 then ['0', s.conversion] else []
  if s.flags.contains '-' then pad s true (sign ++ body)
  else if s.flags.contains '0' ∧ s.precision.isNone then
    sign ++ List.replicate (s.width - sign.length - body.length) '0' ++ body
  else pad s false (sign ++ body)

/-- A number as an argument gives it. A quote stands for the number of the character behind it. -/
def argumentValue? (cs : List Char) : Option Int :=
  match cs with
  | '"' :: c :: _ | '\'' :: c :: _ => some c.toNat
  | _ => Arithmetic.valueOf? cs

/-- What is printed so far, the status, and whether an escape or a mistake ended it. -/
structure Filled where
  text : List Char := []
  status : Nat := 0
  ended : Bool := false

def Filled.add (f : Filled) (cs : List Char) : Filled := { f with text := f.text ++ cs }

def convert (f : Filled) (s : Spec) (argument : List Char) : Filled :=
  let left := s.flags.contains '-'
  let short (cs : List Char) := s.precision.elim cs (cs.take ·)
  if s.conversion = 's' then f.add (pad s left (short argument))
  else if s.conversion = 'b' then
    let (text, ended) := unescape true argument
    { f.add (pad s left (short text)) with ended }
  else if s.conversion = 'c' then f.add (pad s left [argument.headD '\x00'])
  else if ['d', 'i', 'u', 'x', 'X', 'o'].contains s.conversion then
    match argumentValue? argument with
    | some n => f.add (integer s n)
    | none =>
      let n := (Arithmetic.integer? (argument.takeWhile Char.isDigit)).getD 0
      { f.add (integer s n) with status := 1 }
  else { f with status := 2, ended := true }

/-- A width or a precision: digits, or a star for which an argument stands. -/
def amount (arguments : List (List Char)) (cs : List Char) :
    Option Nat × List Char × List (List Char) :=
  match cs with
  | '*' :: rest => (number? (arguments.headD []), rest, arguments.tail)
  | _ =>
    let ds := cs.takeWhile Char.isDigit
    (number? ds, cs.drop ds.length, arguments)

def fillFrom : (fuel : Nat) → Filled → List Char → List (List Char) → Filled × List (List Char)
  | 0, f, _, arguments => (f, arguments)
  | _ + 1, f, [], arguments => (f, arguments)
  | fuel + 1, f, '%' :: '%' :: rest, arguments => fillFrom fuel (f.add ['%']) rest arguments
  | fuel + 1, f, '%' :: rest, arguments =>
    let flags := rest.takeWhile (['-', '+', ' ', '0', '#'].contains ·)
    let (width, rest, arguments) := amount arguments (rest.drop flags.length)
    let (precision, rest, arguments) :=
      if rest.head? = some '.' then
        let (p, rest, arguments) := amount arguments (rest.drop 1)
        (some (p.getD 0), rest, arguments)
      else (none, rest, arguments)
    match rest with
    | [] => ({ f with status := 2, ended := true }, arguments)
    | c :: rest =>
      let f := convert f ⟨flags, width.getD 0, precision, c⟩ (arguments.headD [])
      if f.ended then (f, []) else fillFrom fuel f rest arguments.tail
  | fuel + 1, f, c :: rest, arguments =>
    let escape := c = '\\' && !rest.isEmpty
    let (octalChar, n) := octal 3 rest
    if escape && 0 < n then fillFrom fuel (f.add [octalChar]) (rest.drop n) arguments
    else if escape then
      fillFrom fuel (f.add (unescape false (c :: rest.take 1)).1) (rest.drop 1) arguments
    else fillFrom fuel (f.add [c]) rest arguments

/-- Fills a format as often as it takes to use every argument. -/
def fill (format : List Char) : (fuel : Nat) → Filled → List (List Char) → Filled
  | 0, f, _ => f
  | fuel + 1, f, arguments =>
    let (f, left) := fillFrom (format.length + 1) f format arguments
    if f.ended || left.isEmpty || left.length = arguments.length then f else fill format fuel f left

def print (format : List Char) (arguments : List (List Char)) : List Char × Nat :=
  let f := fill format (arguments.length + 1) {} arguments
  (f.text, f.status)

end Format

end ElfFacts.Script
