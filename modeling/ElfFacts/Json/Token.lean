import ElfFacts.Json.Value

/-!
# Tokens of JSON

A machine reads one character at a time. Where the input is ill formed, the character is missing;
that is allowed only inside a text.
-/
namespace ElfFacts.Json

inductive Token where
  | openList
  | closeList
  | openObject
  | closeObject
  | comma
  | colon
  | null
  | bool (b : Bool)
  | number (literal : List Char)
  | text (s : JsonText)
  deriving DecidableEq, Repr

/-! ## Contents of texts -/

/-- A piece of a text: a character, half of one in sixteen bits, or something ill formed. -/
inductive Piece where
  | char (c : Char)
  | unit (n : Nat)
  | broken
  deriving DecidableEq, Repr

def isLeading (n : Nat) : Bool := 0xD800 ≤ n && n < 0xDC00

def isTrailing (n : Nat) : Bool := 0xDC00 ≤ n && n < 0xE000

/-- The characters of a text. A leading unit needs a trailing one right after it. -/
def characters : List Piece → Option (List Char)
  | [] => some []
  | .char c :: rest => (characters rest).map (c :: ·)
  | .broken :: _ => none
  | [.unit n] => if isLeading n || isTrailing n then none else some [Char.ofNat n]
  | .unit n :: .unit n' :: rest =>
    if isLeading n then
      if isTrailing n' then
        (characters rest).map (Char.ofNat (0x10000 + (n - 0xD800) * 0x400 + (n' - 0xDC00)) :: ·)
      else none
    else if isTrailing n then none
    else (characters (.unit n' :: rest)).map (Char.ofNat n :: ·)
  | .unit n :: piece :: rest =>
    if isLeading n || isTrailing n then none
    else (characters (piece :: rest)).map (Char.ofNat n :: ·)

def textOf (pieces : List Piece) : JsonText := (characters pieces).map String.ofList

def hexValue? (c : Char) : Option Nat :=
  if '0' ≤ c ∧ c ≤ '9' then some (c.toNat - '0'.toNat)
  else if 'a' ≤ c ∧ c ≤ 'f' then some (c.toNat - 'a'.toNat + 10)
  else if 'A' ≤ c ∧ c ≤ 'F' then some (c.toNat - 'A'.toNat + 10)
  else none

def unescape? : Char → Option Char
  | '"' => some '"'
  | '\\' => some '\\'
  | '/' => some '/'
  | 'b' => some '\x08'
  | 'f' => some '\x0c'
  | 'n' => some '\n'
  | 'r' => some '\r'
  | 't' => some '\t'
  | _ => none

/-! ## Numbers and words -/

def dropDigits (cs : List Char) : List Char := cs.dropWhile Char.isDigit

def someDigits? (cs : List Char) : Option (List Char) :=
  match cs with
  | c :: _ => if c.isDigit then some (dropDigits cs) else none
  | [] => none

/-- No needless zero comes first. -/
def wholePart? (cs : List Char) : Option (List Char) :=
  match cs with
  | '0' :: rest => some rest
  | _ => someDigits? cs

def fraction? (cs : List Char) : Option (List Char) :=
  match cs with
  | '.' :: rest => someDigits? rest
  | _ => some cs

def exponent? (cs : List Char) : Option (List Char) :=
  match cs with
  | c :: rest =>
    if c = 'e' ∨ c = 'E' then
      match rest with
      | '+' :: digits | '-' :: digits => someDigits? digits
      | _ => someDigits? rest
    else some cs
  | [] => some []

def isNumber (cs : List Char) : Bool :=
  let unsigned := match cs with
    | '-' :: rest => rest
    | _ => cs
  (wholePart? unsigned >>= fraction? >>= exponent?) = some []

def wordToken? (cs : List Char) : Option Token :=
  if cs = ['n', 'u', 'l', 'l'] then some .null
  else if cs = ['t', 'r', 'u', 'e'] then some (.bool true)
  else if cs = ['f', 'a', 'l', 's', 'e'] then some (.bool false)
  else if isNumber cs then some (.number cs)
  else none

/-! ## The machine -/

inductive Mode where
  | between
  /-- Inside a number or a word, in reverse. -/
  | word (cs : List Char)
  /-- Inside a text, in reverse. -/
  | text (pieces : List Piece)
  | escape (pieces : List Piece)
  | unit (pieces : List Piece) (digits value : Nat)
  deriving DecidableEq, Repr

structure Lexer where
  mode : Mode := .between
  /-- In reverse. -/
  tokens : List Token := []
  deriving DecidableEq, Repr

namespace Lexer

def isWordChar (c : Char) : Bool := c.isAlphanum || c = '+' || c = '-' || c = '.'

def isSpace (c : Char) : Bool := c = ' ' || c = '\t' || c = '\n' || c = '\r'

def mark? : Char → Option Token
  | '[' => some .openList
  | ']' => some .closeList
  | '\x7b' => some .openObject
  | '\x7d' => some .closeObject
  | ',' => some .comma
  | ':' => some .colon
  | _ => none

def between (tokens : List Token) (c : Char) : Option Lexer :=
  if isSpace c then some ⟨.between, tokens⟩
  else if c = '"' then some ⟨.text [], tokens⟩
  else if isWordChar c then some ⟨.word [c], tokens⟩
  else (mark? c).map fun t => ⟨.between, t :: tokens⟩

def text (pieces : List Piece) (tokens : List Token) : Option Char → Option Lexer
  | none => some ⟨.text (.broken :: pieces), tokens⟩
  | some c =>
    if c = '"' then some ⟨.between, .text (textOf pieces.reverse) :: tokens⟩
    else if c = '\\' then some ⟨.escape pieces, tokens⟩
    else if c.toNat < 0x20 then none
    else some ⟨.text (.char c :: pieces), tokens⟩

def escape (pieces : List Piece) (tokens : List Token) (c : Char) : Option Lexer :=
  if c = 'u' then some ⟨.unit pieces 4 0, tokens⟩
  else (unescape? c).map fun e => ⟨.text (.char e :: pieces), tokens⟩

def unit (pieces : List Piece) (digits value : Nat) (tokens : List Token) (c : Char) : Option Lexer :=
  (hexValue? c).map fun d =>
    if digits ≤ 1 then ⟨.text (.unit (value * 16 + d) :: pieces), tokens⟩
    else ⟨.unit pieces (digits - 1) (value * 16 + d), tokens⟩

def step (l : Lexer) (c : Option Char) : Option Lexer :=
  match l.mode, c with
  | .text pieces, c => text pieces l.tokens c
  | _, none => none
  | .between, some c => between l.tokens c
  | .word cs, some c =>
    if isWordChar c then some ⟨.word (c :: cs), l.tokens⟩
    else (wordToken? cs.reverse).bind fun t => between (t :: l.tokens) c
  | .escape pieces, some c => escape pieces l.tokens c
  | .unit pieces digits value, some c => unit pieces digits value l.tokens c

end Lexer

/-- The tokens of an input. A space after it ends the last word. -/
def tokens? (input : List (Option Char)) : Option (List Token) :=
  match (input ++ [some ' ']).foldlM Lexer.step {} with
  | some ⟨.between, tokens⟩ => some tokens.reverse
  | _ => none

end ElfFacts.Json
