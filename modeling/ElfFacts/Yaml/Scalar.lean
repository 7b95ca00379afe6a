import ElfFacts.Yaml.Cursor

/-!
# Scalars

A scalar is plain, quoted once or twice, or a block. A single line break inside a plain or quoted
scalar becomes a blank, and further breaks are kept.
-/
namespace ElfFacts.Yaml

/-! ## Blanks and breaks between words -/

/-- What stands between two words: blanks of one line, or line breaks with blanks around them. -/
structure Gap where
  blanks : List Char := []
  broken : Bool := false
  first : List Char := []
  further : List Char := []

namespace Gap

def text (g : Gap) : List Char :=
  if g.broken then
    if g.first.head? = some '\n' then if g.further = [] then [' '] else g.further
    else g.first ++ g.further
  else g.blanks

/-- Takes blanks and breaks. In the columns before `indent` of a further line no tab may stand. The
fuel is enough because every step takes a character. -/
def takeFrom (indent : Nat) : (fuel : Nat) → Gap → Reader Gap
  | 0, g => return g
  | fuel + 1, g => do
    let here ← get
    match here.rest.head? with
    | none => return g
    | some c =>
      if isBlank c then
        if g.broken && here.column < indent && c = '\t' then Reader.fail
        else
          Reader.skip 1
          takeFrom indent fuel (if g.broken then g else { g with blanks := g.blanks ++ [c] })
      else if isBreak c then
        let text ← Reader.lineBreak
        takeFrom indent fuel
          (if g.broken then { g with further := g.further ++ text }
          else { g with blanks := [], broken := true, first := text })
      else return g

def take (indent : Nat) (g : Gap) : Reader Gap := do
  takeFrom indent ((← get).rest.length + 1) g

end Gap

/-! ## Plain scalars -/

def isFlowMark (c : Char) : Bool := [',', '[', ']', '\x7b', '\x7d'].contains c

/-- The characters up to a blank, a break or something that ends a plain scalar. In a flow
collection a colon right before a mark is refused. -/
def plainWord (flow : Bool) : List Char → Option (List Char)
  | [] => some []
  | c :: rest =>
    if isBlank c || isBreak c then some []
    else
      let next := rest.head?
      if flow && c = ':' && (next.elim false fun n => isFlowMark n || n = '?') then none
      else if c = ':' && (next.elim true fun n => isBlank n || isBreak n) then some []
      else if flow && isFlowMark c then some []
      else (plainWord flow rest).map (c :: ·)

/-- Goes on after `text` and a gap. Gives the text and whether a line has ended since the last
word. -/
def plainFrom (flow : Bool) (indent : Nat) :
    (fuel : Nat) → (text : List Char) → Gap → Reader (List Char × Bool)
  | 0, text, gap => return (text, gap.broken)
  | fuel + 1, text, gap => do
    let here ← get
    if here.atDocumentMark || here.rest.head? = some '#' then return (text, gap.broken)
    let word ← (plainWord flow here.rest : Option (List Char))
    Reader.skip word.length
    let text := if word = [] then text else text ++ gap.text ++ word
    let broken := if word = [] then gap.broken else false
    let stop := (← Reader.head?).elim true fun c => !(isBlank c || isBreak c)
    if stop then return (text, broken)
    let gap ← Gap.take indent (if word = [] then gap else {})
    if !flow && (← get).column < indent then return (text, gap.broken)
    plainFrom flow indent fuel text gap

/-- A plain scalar, and whether a line ended behind it. Outside flow collections its lines are
indented at least as far as `indent`. -/
def plainScalar (flow : Bool) (indent : Nat) : Reader (List Char × Bool) := do
  plainFrom flow indent ((← get).rest.length + 1) [] {}

/-! ## Quoted scalars -/

def escape? : Char → Option Char
  | '0' => some '\x00'
  | 'a' => some '\x07'
  | 'b' => some '\x08'
  | 't' | '\t' => some '\t'
  | 'n' => some '\n'
  | 'v' => some '\x0b'
  | 'f' => some '\x0c'
  | 'r' => some '\r'
  | 'e' => some '\x1b'
  | ' ' => some ' '
  | '"' => some '"'
  | '/' => some '/'
  | '\\' => some '\\'
  | 'N' => some '\u0085'
  | '_' => some '\u00a0'
  | 'L' => some '\u2028'
  | 'P' => some '\u2029'
  | _ => none

def codeLength? : Char → Option Nat
  | 'x' => some 2
  | 'u' => some 4
  | 'U' => some 8
  | _ => none

def hexNumber? (digits : List Char) : Option Nat :=
  digits.foldlM (fun n c => (hexValue? c).map (n * 16 + ·)) 0

def escaped? : List Char → Option (Char × Nat)
  | '\\' :: c :: rest =>
    match escape? c, codeLength? c with
    | some e, _ => some (e, 2)
    | none, some n =>
      if (rest.take n).length < n then none
      else
        match hexNumber? (rest.take n) with
        | none => none
        | some code => if code.isValidChar then some (Char.ofNat code, n + 2) else none
    | none, none => none
  | _ => none

/-- Takes a word of a quoted scalar, in reverse. Stops at a blank, a break, the closing quote, or
after an escaped line break, which is told. -/
def quotedWord (single : Bool) : (fuel : Nat) → List Char → Reader (List Char × Bool)
  | 0, word => return (word, false)
  | fuel + 1, word => do
    let here ← get
    match here.rest with
    | [] => return (word, false)
    | c :: rest =>
      if isBlank c || isBreak c then return (word, false)
      else if single && c = '\'' && rest.head? = some '\'' then
        Reader.skip 2
        quotedWord single fuel ('\'' :: word)
      else if c = (if single then '\'' else '"') then return (word, false)
      else if !single && c = '\\' then
        if rest.head?.elim false isBreak then
          Reader.skip 1
          let _ ← Reader.lineBreak
          return (word, true)
        else
          let (e, n) ← (escaped? here.rest : Option (Char × Nat))
          Reader.skip n
          quotedWord single fuel (e :: word)
      else
        Reader.skip 1
        quotedWord single fuel (c :: word)

def quotedFrom (single : Bool) : (fuel : Nat) → (text : List Char) → Reader (List Char)
  | 0, _ => Reader.fail
  | fuel + 1, text => do
    let here ← get
    if here.atDocumentMark || here.rest = [] then Reader.fail
    else
      let (word, cut) ← quotedWord single (here.rest.length + 1) []
      let text := text ++ word.reverse
      if (← Reader.head?) = some (if single then '\'' else '"') then
        Reader.skip 1
        return text
      else
        let gap ← Gap.take 0 { broken := cut }
        quotedFrom single fuel (text ++ gap.text)

def quotedScalar (single : Bool) : Reader (List Char) := do
  Reader.skip 1
  quotedFrom single ((← get).rest.length + 1) []

/-! ## Block scalars -/

inductive Chomping where
  | strip
  | clip
  | keep
  deriving DecidableEq, Repr

def chomping? : Option Char → Option Chomping
  | some '+' => some .keep
  | some '-' => some .strip
  | _ => none

def indentDigit : Reader (Option Nat) := do
  match ← Reader.head? with
  | some c =>
    if isDigit c then
      if c = '0' then Reader.fail
      else
        Reader.skip 1
        return some (c.toNat - '0'.toNat)
    else return none
  | none => return none

def chompingMark : Reader (Option Chomping) := do
  match chomping? (← Reader.head?) with
  | some c =>
    Reader.skip 1
    return some c
  | none => return none

def blockHeader : Reader (Chomping × Option Nat) := do
  match ← chompingMark with
  | some c => return (c, ← indentDigit)
  | none =>
    match ← indentDigit with
    | some n => return ((← chompingMark).getD .clip, some n)
    | none => return (.clip, none)

/-- Takes blank lines. Without a known indentation it is as deep as the deepest of them. -/
def blockBreaksFrom (indent : Option Nat) :
    (fuel : Nat) → (deepest : Nat) → (breaks : List Char) → Reader (List Char × Nat)
  | 0, deepest, breaks => return (breaks, deepest)
  | fuel + 1, deepest, breaks => do
    let here ← get
    let spaces := (here.rest.takeWhile (· = ' ')).length
    Reader.skip (indent.elim spaces fun n => min spaces (n - here.column))
    let here ← get
    let deepest := max deepest here.column
    if (indent.elim true (here.column < ·)) && here.rest.head? = some '\t' then Reader.fail
    else
      match here.lineBreak? with
      | none => return (breaks, deepest)
      | some (text, next) =>
        set next
        blockBreaksFrom indent fuel deepest (breaks ++ text)

def blockBreaks (indent : Option Nat) : Reader (List Char × Nat) := do
  blockBreaksFrom indent ((← get).rest.length + 1) 0 []

/-- The text so far, the break that ends its last line, and the blank lines after that. -/
structure BlockText where
  text : List Char := []
  first : List Char := []
  further : List Char := []
  /-- The last line started with a blank. -/
  startsBlank : Bool := false

/-- The text with what comes before the next line. A break between two lines that both start
without a blank is folded. -/
def BlockText.joined (b : BlockText) (literal nextBlank : Bool) : List Char :=
  if !literal && b.first.head? = some '\n' && !b.startsBlank && !nextBlank then
    b.text ++ (if b.further = [] then [' '] else b.further)
  else b.text ++ b.first ++ b.further

def blockLines (literal : Bool) (indent : Nat) : (fuel : Nat) → BlockText → Reader BlockText
  | 0, b => return b
  | fuel + 1, b => do
    let here ← get
    if here.column ≠ indent ∨ here.rest = [] then return b
    let blank := here.rest.head?.elim false isBlank
    let text := b.joined literal blank
    let line ← Reader.takeWhile fun c => !isBreak c
    let first ← Reader.lineBreak
    let (further, _) ← blockBreaks (some indent)
    blockLines literal indent fuel { text := text ++ line, first, further, startsBlank := blank }

/-- A block scalar; the cursor stands at its mark. `outer` is the indentation around it. -/
def blockScalar (literal : Bool) (outer : Int) : Reader (List Char) := do
  Reader.skip 1
  let (chomping, increment) ← blockHeader
  Reader.restOfLine
  let known := increment.map fun n => (max outer 0).toNat + n
  let (further, deepest) ← blockBreaks known
  let indent := known.getD (max (max deepest (outer + 1).toNat) 1)
  let b ← blockLines literal indent ((← get).rest.length + 1) { further }
  return b.text ++ (if chomping = .strip then [] else b.first) ++
    (if chomping = .keep then b.further else [])

end ElfFacts.Yaml
