import ElfFacts.Yaml.Token

/-!
# From characters to tokens

Outside flow collections the indentation decides where a collection opens and closes. A node that
could be the key of a mapping is known to be one only when the colon behind it is met; then the
token for the key is put in front of the node.
-/
namespace ElfFacts.Yaml

/-- Where a node starts that can still turn out to be a key. -/
structure PossibleKey where
  /-- The node has to be a key, because it starts where keys of the open mapping do. -/
  required : Bool
  place : Nat
  index : Nat
  line : Nat
  column : Nat

structure Lexer where
  cursor : Cursor
  tokens : Array Token := #[]
  /-- One for every open flow collection and one for what is around them, innermost first. -/
  keys : List (Option PossibleKey) := [none]
  keyAllowed : Bool := true
  indent : Int := -1
  indents : List Int := []

namespace Lexer

def inFlow (l : Lexer) : Bool := 1 < l.keys.length

def add (l : Lexer) (t : Token) : Lexer := { l with tokens := l.tokens.push t }

def column (l : Lexer) : Int := l.cursor.column

def skip (l : Lexer) (n : Nat) : Lexer := { l with cursor := l.cursor.forward n }

/-! ## Indentation -/

/-- Opens a block collection at a column that is deeper than the open ones. Its token comes at a
place among the tokens. -/
def openBlock (l : Lexer) (column : Int) (place : Nat) (t : Token) : Lexer :=
  if l.inFlow || column ≤ l.indent then l
  else
    { l with
      tokens := l.tokens.insertIdxIfInBounds place t
      indent := column
      indents := l.indent :: l.indents }

def closeFrom (column : Int) : List Int → Int → Array Token → List Int × Int × Array Token
  | [], indent, tokens => ([], indent, tokens)
  | outer :: rest, indent, tokens =>
    if column < indent then closeFrom column rest outer (tokens.push .blockEnd)
    else (outer :: rest, indent, tokens)

def closeBlocks (l : Lexer) (column : Int) : Lexer :=
  if l.inFlow then l
  else
    let (indents, indent, tokens) := closeFrom column l.indents l.indent l.tokens
    { l with indents, indent, tokens }

/-! ## Possible keys -/

def dropKey (l : Lexer) : Option Lexer :=
  match l.keys with
  | some k :: rest => if k.required then none else some { l with keys := none :: rest }
  | _ => some l

def saveKey (l : Lexer) : Option Lexer :=
  if l.keyAllowed then do
    let l ← l.dropKey
    let key : PossibleKey :=
      { required := !l.inFlow && l.indent = l.column, place := l.tokens.size,
        index := l.cursor.index, line := l.cursor.line, column := l.cursor.column }
    return { l with keys := some key :: l.keys.drop 1 }
  else some l

/-- A key ends on its line and takes no more octets than this. -/
def longestKey : Nat := 1024

def staleKey (c : Cursor) : Option PossibleKey → Option (Option PossibleKey)
  | none => some none
  | some k =>
    if k.line < c.line ∨ k.index + longestKey < c.index then
      if k.required then none else some none
    else some (some k)

def dropStaleKeys (l : Lexer) : Option Lexer := do
  return { l with keys := ← l.keys.mapM (staleKey l.cursor) }

/-! ## Between tokens -/

/-- Goes over byte order marks, blanks, comments and line breaks. Outside flow collections a tab is
no blank where a key can start, and keys can start on a new line. -/
def toNextFrom : (fuel : Nat) → Lexer → Lexer
  | 0, l => l
  | fuel + 1, l =>
    let tabs := l.inFlow || !l.keyAllowed
    let c := (l.cursor.pastMark.past fun x => x = ' ' || (tabs && x = '\t')).pastComment
    match c.lineBreak? with
    | none => { l with cursor := c }
    | some (_, c) => toNextFrom fuel { l with cursor := c, keyAllowed := l.keyAllowed || !l.inFlow }

def toNext (l : Lexer) : Lexer := toNextFrom (l.cursor.rest.length + 1) l

/-! ## Tokens of each kind -/

/-- A directive or a mark between documents closes everything. -/
def betweenDocuments (l : Lexer) : Option Lexer := do
  let l ← (l.closeBlocks (-1)).dropKey
  return { l with keyAllowed := false }

def reading (l : Lexer) (r : Reader Token) : Option Lexer := do
  let (t, cursor) ← r l.cursor
  return { l with cursor, tokens := l.tokens.push t }

def documentMark (l : Lexer) (t : Token) : Option Lexer := do
  return ((← l.betweenDocuments).skip 3).add t

def openFlow (l : Lexer) (t : Token) : Option Lexer := do
  let l ← l.saveKey
  return ({ l with keys := none :: l.keys, keyAllowed := true }.skip 1).add t

def closeFlow (l : Lexer) (t : Token) : Option Lexer := do
  let l ← l.dropKey
  let keys := if l.inFlow then l.keys.drop 1 else l.keys
  return ({ l with keys, keyAllowed := false }.skip 1).add t

def flowEntry (l : Lexer) : Option Lexer := do
  let l ← l.dropKey
  return ({ l with keyAllowed := true }.skip 1).add .flowEntry

def blockEntry (l : Lexer) : Option Lexer := do
  if !l.inFlow && !l.keyAllowed then none
  else
    let l ← (l.openBlock l.column l.tokens.size .blockSequence).dropKey
    return ({ l with keyAllowed := true }.skip 1).add .blockEntry

def explicitKey (l : Lexer) : Option Lexer := do
  if !l.inFlow && !l.keyAllowed then none
  else
    let l ← (l.openBlock l.column l.tokens.size .blockMapping).dropKey
    return ({ l with keyAllowed := !l.inFlow }.skip 1).add .key

/-- A colon makes a key of the node before it, or stands without one. -/
def value (l : Lexer) : Option Lexer :=
  match l.keys with
  | some k :: rest =>
    let l := { l with keys := none :: rest, tokens := l.tokens.insertIdxIfInBounds k.place .key }
    let l := l.openBlock k.column k.place .blockMapping
    some (({ l with keyAllowed := false }.skip 1).add .value)
  | _ =>
    if !l.inFlow && !l.keyAllowed then none
    else
      let l := l.openBlock l.column l.tokens.size .blockMapping
      some (({ l with keyAllowed := !l.inFlow }.skip 1).add .value)

def starting (l : Lexer) (r : Reader Token) : Option Lexer := do
  let l ← l.saveKey
  { l with keyAllowed := false }.reading r

def blockText (l : Lexer) (literal : Bool) : Option Lexer := do
  let l ← l.dropKey
  { l with keyAllowed := true }.reading (return .scalar (← blockScalar literal l.indent) false)

def plainText (l : Lexer) : Option Lexer := do
  let l ← l.saveKey
  let ((text, ended), cursor) ← plainScalar l.inFlow (l.indent + 1).toNat l.cursor
  return { l with cursor, keyAllowed := ended, tokens := l.tokens.push (.scalar text true) }

/-- Characters that no plain scalar starts with, save for a dash, a question mark or a colon that
something follows. -/
def isIndicator (c : Char) : Bool :=
  ['-', '?', ':', ',', '[', ']', '\x7b', '\x7d', '#', '&', '*', '!', '|', '>', '\'', '"', '%', '@',
    '`'].contains c

def startsPlain (l : Lexer) (c : Char) : Bool :=
  let next := (l.cursor.rest.drop 1).head?
  !(isBlank c || isBreak c || isIndicator c) ||
    (c = '-' && !(next.elim false isBlank)) ||
    (!l.inFlow && (c = '?' || c = ':') && !l.cursor.endsAfter 1)

def fetch (l : Lexer) (c : Char) : Option Lexer :=
  let alone := l.cursor.endsAfter 1
  if l.cursor.column = 0 ∧ c = '%' then do (← l.betweenDocuments).reading directive
  else if l.cursor.atDocumentMark then
    l.documentMark (if c = '-' then .documentStart else .documentEnd)
  else if c = '[' then l.openFlow .openSequence
  else if c = '\x7b' then l.openFlow .openMapping
  else if c = ']' then l.closeFlow .closeSequence
  else if c = '\x7d' then l.closeFlow .closeMapping
  else if c = ',' then l.flowEntry
  else if c = '-' ∧ alone then l.blockEntry
  else if c = '?' ∧ (l.inFlow || alone) then l.explicitKey
  else if c = ':' ∧ (l.inFlow || alone) then l.value
  else if c = '*' then l.starting (return .alias (← markedName))
  else if c = '&' then l.starting (return .anchor (← markedName))
  else if c = '!' then l.starting (tag l.inFlow)
  else if c = '|' ∧ !l.inFlow then l.blockText true
  else if c = '>' ∧ !l.inFlow then l.blockText false
  else if c = '\'' then l.starting (return .scalar (← quotedScalar true) false)
  else if c = '"' then l.starting (return .scalar (← quotedScalar false) false)
  else if l.startsPlain c then l.plainText
  else none

/-- At the end of the input a new line is taken to start. -/
def finish (l : Lexer) : Option (Array Token) := do
  let l ← (l.closeBlocks (-1)).dropKey
  return l.tokens.push .streamEnd

/-- The fuel is enough because every token takes a character. -/
def run : (fuel : Nat) → Lexer → Option (Array Token)
  | 0, _ => none
  | fuel + 1, l => do
    let l ← l.toNext.dropStaleKeys
    let l := l.closeBlocks l.column
    match l.cursor.rest with
    | [] => l.finish
    | c :: _ => run fuel (← l.fetch c)

end Lexer

def tokens? (cs : List Char) : Option (List Token) :=
  if cs.all isAllowed then
    (Lexer.run (cs.length + 1) { cursor := { rest := cs } }).map Array.toList
  else none

end ElfFacts.Yaml
