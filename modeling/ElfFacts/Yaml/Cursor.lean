/-!
# Reading YAML characters

A cursor stands before the rest of the input and knows its line and its column. Lines end at a
carriage return, a line feed, both together, or one of three further separators.
-/
namespace ElfFacts.Yaml

def isAllowed (c : Char) : Bool :=
  let n := c.toNat
  c = '\t' || c = '\n' || c = '\r' || (0x20 ≤ n && n ≤ 0x7E) || n = 0x85 ||
    (0xA0 ≤ n && n ≤ 0xFFFD) || 0x10000 ≤ n

def isBlank (c : Char) : Bool := c = ' ' || c = '\t'

def isBreak (c : Char) : Bool :=
  c = '\n' || c = '\r' || c = '\u0085' || c = '\u2028' || c = '\u2029'

def isNameChar (c : Char) : Bool := c.isAlphanum || c = '_' || c = '-'

def isDigit (c : Char) : Bool := '0' ≤ c && c ≤ '9'

def hexValue? (c : Char) : Option Nat :=
  if isDigit c then some (c.toNat - '0'.toNat)
  else if 'a' ≤ c ∧ c ≤ 'f' then some (c.toNat - 'a'.toNat + 10)
  else if 'A' ≤ c ∧ c ≤ 'F' then some (c.toNat - 'A'.toNat + 10)
  else none

structure Cursor where
  rest : List Char
  index : Nat := 0
  line : Nat := 0
  column : Nat := 0

abbrev Reader := StateT Cursor Option

def octetLength (cs : List Char) : Nat := cs.foldl (fun n c => n + c.utf8Size) 0

namespace Cursor

def indexAfter (c : Cursor) (n : Nat) : Nat := c.index + octetLength (c.rest.take n)

def forward (c : Cursor) (n : Nat) : Cursor :=
  { c with rest := c.rest.drop n, index := c.indexAfter n, column := c.column + n }

def newLine (c : Cursor) (n : Nat) : Cursor :=
  { rest := c.rest.drop n, index := c.indexAfter n, line := c.line + 1, column := 0 }

def endsAfter (c : Cursor) (n : Nat) : Bool :=
  match (c.rest.drop n).head? with
  | none => true
  | some x => isBlank x || isBreak x

def startsWith (c : Cursor) (mark : List Char) : Bool := mark.isPrefixOf c.rest

/-- A row of three dashes or dots that starts a line separates documents. -/
def atDocumentMark (c : Cursor) : Bool :=
  c.column = 0 && (c.startsWith ['-', '-', '-'] || c.startsWith ['.', '.', '.']) && c.endsAfter 3

def lineBreak? (c : Cursor) : Option (List Char × Cursor) :=
  match c.rest with
  | '\r' :: '\n' :: _ => some (['\n'], c.newLine 2)
  | x :: _ =>
    if x = '\r' ∨ x = '\n' ∨ x = '\u0085' then some (['\n'], c.newLine 1)
    else if isBreak x then some ([x], c.newLine 1)
    else none
  | [] => none

/-- Goes over the characters that pass a test, none of which ends a line. -/
def past (c : Cursor) (p : Char → Bool) : Cursor := c.forward (c.rest.takeWhile p).length

def byteOrderMark : Char := '\uFEFF'

/-- Goes over a byte order mark, which may start any line. It takes a column. -/
def pastMark (c : Cursor) : Cursor :=
  if c.column = 0 ∧ c.rest.head? = some byteOrderMark then c.forward 1 else c

def pastComment (c : Cursor) : Cursor :=
  if c.rest.head? = some '#' then c.past fun x => !isBreak x else c

end Cursor

namespace Reader

def fail {α : Type} : Reader α := fun _ => none

def head? : Reader (Option Char) := fun c => some (c.rest.head?, c)

def at? (n : Nat) : Reader (Option Char) := fun c => some ((c.rest.drop n).head?, c)

def skip (n : Nat) : Reader Unit := fun c => some ((), c.forward n)

def takeWhile (p : Char → Bool) : Reader (List Char) := fun c =>
  some (c.rest.takeWhile p, c.past p)

def skipBlanks : Reader Unit := fun c => some ((), c.past isBlank)

def lineBreak : Reader (List Char) := fun c =>
  match c.lineBreak? with
  | some (text, c) => some (text, c)
  | none => some ([], c)

def expectEnd : Reader Unit := fun c => if c.endsAfter 0 then some ((), c) else none

def restOfLine : Reader Unit := fun c =>
  let c := (c.past isBlank).pastComment
  match c.lineBreak? with
  | some (_, c) => some ((), c)
  | none => if c.rest = [] then some ((), c) else none

end Reader

end ElfFacts.Yaml
