import ElfFacts.Script.Command

/-!
# Reading words

Quotes take away the meaning of characters, wholly or in part. A dollar sign or a grave accent
starts something that is expanded when the command runs. Every step takes a character, so the
length of the text is enough fuel; `none` means that something is not closed.
-/
namespace ElfFacts.Script

def graveAccent : Char := '`'

def behind (cs : List Char) (r : List Char × List Char) : List Char × List Char := (cs ++ r.1, r.2)

/-! ## Where things end -/

structure Final where
  text : List Char
  /-- Tabs at the start of its lines are left out. -/
  tabless : Bool

def documentLines (final : Final) : (fuel : Nat) → List Char → List Char × List Char
  | 0, cs => ([], cs)
  | fuel + 1, cs =>
    if cs = [] then ([], [])
    else
      let raw := cs.takeWhile (· ≠ '\n')
      let rest := cs.drop (raw.length + 1)
      let line := if final.tabless then raw.dropWhile (· = '\t') else raw
      if line = final.text then ([], rest)
      else behind (line ++ ['\n']) (documentLines final fuel rest)

/-- What the commands of a substitution are inside of. -/
inductive Scope where
  | brackets
  /-- The word of a choice, and the word behind it. -/
  | subject
  | in_
  | patterns
  /-- The commands of a choice. -/
  | arm
  deriving DecidableEq

def scopesBehind (scopes : List Scope) (fresh : Bool) (word : List Char) : List Scope × Bool :=
  match scopes with
  | .subject :: outer => (.in_ :: outer, false)
  | .in_ :: outer => (.patterns :: outer, false)
  | .patterns :: outer => if word = "esac".toList then (outer, false) else (scopes, false)
  | _ =>
    if !fresh then (scopes, false)
    else
      match String.ofList word with
      | "case" => (.subject :: scopes, false)
      | "esac" => (if scopes.head? = some .arm then scopes.drop 1 else scopes, false)
      | "then" | "do" | "else" | "elif" | "if" | "while" | "until" | "\x7b" | "!" => (scopes, true)
      | _ => (scopes, false)

mutual

/-- The text up to a closing character, and what comes after it. The closing character does not
count inside quotes, after a backslash, or inside brackets of its own. In a text that is quoted
already single quotes mean nothing. -/
def enclosed (quoted : Bool) : (fuel : Nat) → (close : Char) → List Char →
    Option (List Char × List Char)
  | 0, _, _ => none
  | _ + 1, _, [] => none
  | fuel + 1, close, c :: rest =>
    if c = close then some ([], rest)
    else
      let go (part : List Char × List Char) := do
        return behind part.1 (← enclosed quoted fuel close part.2)
      if c = '(' && close = ')' then do
        let (inside, rest) ← enclosed quoted fuel ')' rest
        go (c :: inside ++ [')'], rest)
      else if c = '\'' && (close = '"' || quoted) then go ([c], rest)
      else do go (← unit quoted fuel c rest)

def unit (quoted : Bool) : (fuel : Nat) → Char → List Char → Option (List Char × List Char)
  | 0, _, _ => none
  | fuel + 1, c, rest =>
    if c = '\\' then some (c :: rest.take 1, rest.drop 1)
    else if c = '\'' then
      let inside := rest.takeWhile (· ≠ '\'')
      if inside.length < rest.length then
        some (c :: inside ++ ['\''], rest.drop (inside.length + 1))
      else none
    else if c = '"' || c = graveAccent then do
      let (inside, rest) ← enclosed quoted fuel c rest
      return (c :: inside ++ [c], rest)
    else if c = '$' then
      match rest with
      | '(' :: '(' :: _ => do
        let (inside, rest) ← enclosed false fuel ')' (rest.drop 1)
        return (['$', '('] ++ inside ++ [')'], rest)
      | '(' :: rest => do
        let (inside, rest) ← commandsEnd fuel [] true [] rest
        return (['$', '('] ++ inside ++ [')'], rest)
      | '\x7b' :: rest => do
        let (inside, rest) ← enclosed quoted fuel '\x7d' rest
        return (['$', '\x7b'] ++ inside ++ ['\x7d'], rest)
      | _ => some ([c], rest)
    else some ([c], rest)

def writtenWord : (fuel : Nat) → List Char → Option (List Char × List Char)
  | 0, _ => none
  | _ + 1, [] => some ([], [])
  | fuel + 1, c :: rest =>
    if endsWord c then some ([], c :: rest)
    else do
      let (part, rest) ← unit false fuel c rest
      return behind part (← writtenWord fuel rest)

/-- The commands up to the bracket that closes a substitution, and what comes after it. The
brackets behind the patterns of a choice do not close it. -/
def commandsEnd : (fuel : Nat) → List Scope → (fresh : Bool) → (documents : List Final) →
    List Char → Option (List Char × List Char)
  | 0, _, _, _, _ => none
  | _ + 1, _, _, _, [] => none
  | fuel + 1, scopes, fresh, documents, c :: rest =>
    let go (part : List Char) (scopes : List Scope) (fresh : Bool) (rest : List Char) := do
      return behind part (← commandsEnd fuel scopes fresh documents rest)
    if isBlank c then go [c] scopes fresh rest
    else if c = '#' then
      let comment := rest.takeWhile (· ≠ '\n')
      go (c :: comment) scopes fresh (rest.drop comment.length)
    else if c = '\n' then do
      let left := documents.foldl (fun cs final => (documentLines final (cs.length + 1) cs).2) rest
      let part := c :: rest.take (rest.length - left.length)
      return behind part (← commandsEnd fuel scopes true [] left)
    else if c = ';' && rest.head? = some ';' then
      go [c, ';'] (if scopes.head? = some .arm then .patterns :: scopes.drop 1 else scopes) true (rest.drop 1)
    else if c = ';' || c = '&' || c = '|' then go [c] scopes true rest
    else if c = '(' then
      go [c] (if scopes.head? = some .patterns then scopes else .brackets :: scopes) true rest
    else if c = ')' then
      match scopes with
      | .patterns :: outer => go [c] (.arm :: outer) true rest
      | .brackets :: outer => go [c] outer true rest
      | _ => some ([], rest)
    else if c = '<' && rest.head? = some '<' then do
      let tabless := rest[1]? = some '-'
      let mark := if tabless then ['<', '<', '-'] else ['<', '<']
      let behindMark := rest.drop (mark.length - 1)
      let blanks := behindMark.takeWhile isBlank
      let (word, rest) ← writtenWord fuel (behindMark.drop blanks.length)
      let final : Final := ⟨word.filter (fun c => c != '"' && c != '\'' && c != '\\'), tabless⟩
      return behind (mark ++ blanks ++ word)
        (← commandsEnd fuel scopes fresh (documents ++ [final]) rest)
    else if c = '<' || c = '>' then go [c] scopes false rest
    else do
      let (word, rest) ← writtenWord fuel (c :: rest)
      let (scopes, fresh) := scopesBehind scopes fresh word
      return behind word (← commandsEnd fuel scopes fresh documents rest)

end

def enclosedBy (quoted : Bool) (close : Char) (cs : List Char) : Option (List Char × List Char) :=
  enclosed quoted (2 * cs.length + 2) close cs

def change? : List Char → Option Change
  | [] => some .whole
  | ':' :: '-' :: operand => some (.default true operand)
  | '-' :: operand => some (.default false operand)
  | ':' :: '=' :: operand => some (.assign true operand)
  | '=' :: operand => some (.assign false operand)
  | ':' :: '?' :: _ => some (.require true)
  | '?' :: _ => some (.require false)
  | ':' :: '+' :: operand => some (.replace true operand)
  | '+' :: operand => some (.replace false operand)
  | '#' :: '#' :: pattern => some (.cutStart true pattern)
  | '#' :: pattern => some (.cutStart false pattern)
  | '%' :: '%' :: pattern => some (.cutEnd true pattern)
  | '%' :: pattern => some (.cutEnd false pattern)
  | _ => none

def parameterName? : List Char → Option (List Char × List Char)
  | [] => none
  | c :: rest =>
    if isNameStart c then
      let name := c :: rest.takeWhile isNameChar
      some (name, rest.drop (name.length - 1))
    else if c.isDigit then
      let name := c :: rest.takeWhile Char.isDigit
      some (name, rest.drop (name.length - 1))
    else if isSpecial c then some ([c], rest)
    else none

def bracedParameter? (quoted : Bool) (inside : List Char) : Option Piece :=
  let plain := do
    let (name, rest) ← parameterName? inside
    return .parameter name (← change? rest) quoted
  match inside with
  | '#' :: rest =>
    match parameterName? rest with
    | some (name, []) => some (.parameter name .length quoted)
    | _ => plain
  | _ => plain

def dollar (quoted : Bool) (cs : List Char) : Option (Piece × List Char) :=
  match cs with
  | '(' :: '(' :: rest =>
    match enclosedBy false ')' rest with
    | some (source, ')' :: rest) => some (.arithmetic source quoted, rest)
    | _ => none
  | '(' :: rest => do
    let (source, rest) ← commandsEnd (2 * rest.length + 2) [] true [] rest
    return (.command source quoted, rest)
  | '\x7b' :: rest => do
    let (inside, rest) ← enclosedBy quoted '\x7d' rest
    return (← bracedParameter? quoted inside, rest)
  | c :: rest =>
    if isNameStart c then
      let name := c :: rest.takeWhile isNameChar
      some (.parameter name .whole quoted, rest.drop (name.length - 1))
    else if isSpecial c then some (.parameter [c] .whole quoted, rest)
    else some (.text ['$'] quoted, cs)
  | [] => some (.text ['$'] quoted, [])

/-- The source between grave accents, where a backslash guards three characters. -/
def unguarded : List Char → List Char
  | [] => []
  | '\\' :: c :: rest =>
    if c = '$' ∨ c = '\\' ∨ c = graveAccent then c :: unguarded rest else '\\' :: c :: unguarded rest
  | c :: rest => c :: unguarded rest

def accented (quoted : Bool) : (fuel : Nat) → List Char → Option (List Char × List Char)
  | 0, _ => none
  | _ + 1, [] => none
  | fuel + 1, c :: rest =>
    if c = graveAccent then some ([], rest)
    else if c = '\\' then (accented quoted fuel (rest.drop 1)).map (behind (c :: rest.take 1))
    else (accented quoted fuel rest).map (behind [c])

def graveCommand (quoted : Bool) (cs : List Char) : Option (Piece × List Char) := do
  let (source, rest) ← accented quoted (cs.length + 1) cs
  return (.command (unguarded source) quoted, rest)

/-- Where quoted text stands: between quotes, in braces between quotes, or in a document. -/
inductive Quoting where
  | quotes
  | braces
  | document
  deriving DecidableEq, Repr

def Quoting.guards (q : Quoting) (c : Char) : Bool :=
  c = '$' || c = '\\' || c = graveAccent || (q ≠ .document && c = '"') || (q = .braces && c = '\x7d')

/-- Quoted text up to the quote that closes it, or up to the end if it does not stand between
quotes. A backslash keeps its meaning before the characters that keep theirs. Quotes in braces
that are quoted already mean nothing. -/
def doubleFrom (q : Quoting) : (fuel : Nat) → List Char → Option (Word × List Char)
  | 0, _ => none
  | _ + 1, [] => if q = .quotes then none else some ([], [])
  | fuel + 1, c :: rest => do
    if c = '"' ∧ q = .quotes then return ([], rest)
    let (pieces, rest) ←
      if c = '\\' then
        match rest with
        | [] => some ([.text ['\\'] true], [])
        | e :: rest =>
          if e = '\n' then some ([], rest)
          else if q.guards e then some ([.text [e] true], rest)
          else some ([.text ['\\', e] true], rest)
      else if c = '$' then (dollar true rest).map fun (p, rest) => ([p], rest)
      else if c = graveAccent then (graveCommand true rest).map fun (p, rest) => ([p], rest)
      else if c = '"' ∧ q = .braces then some ([], rest)
      else some ([.text [c] true], rest)
    let (w, rest) ← doubleFrom q fuel rest
    return (pieces ++ w, rest)

def quotedText? (q : Quoting) (cs : List Char) : Option Word :=
  (doubleFrom q (cs.length + 1) cs).map (·.1)

def wordFrom (stop : Char → Bool) : (fuel : Nat) → List Char → Option (Word × List Char)
  | 0, _ => none
  | _ + 1, [] => some ([], [])
  | fuel + 1, c :: rest => do
    if stop c then return ([], c :: rest)
    let (pieces, rest) ←
      if c = '\\' then
        match rest with
        | [] => some ([.text ['\\'] false], [])
        | e :: rest => some (if e = '\n' then [] else [.text [e] true], rest)
      else if c = '\'' then
        let inside := rest.takeWhile (· ≠ '\'')
        if inside.length < rest.length then
          some ([.text inside true], rest.drop (inside.length + 1))
        else none
      else if c = '"' then do
        let (w, rest) ← doubleFrom .quotes (rest.length + 1) rest
        some (if w = [] then [.text [] true] else w, rest)
      else if c = '$' then (dollar false rest).map fun (p, rest) => ([p], rest)
      else if c = graveAccent then (graveCommand false rest).map fun (p, rest) => ([p], rest)
      else some ([.text [c] false], rest)
    let (w, rest) ← wordFrom stop fuel rest
    return (pieces ++ w, rest)

def word? (cs : List Char) : Option (Word × List Char) := wordFrom endsWord (cs.length + 1) cs

def wholeWord? (cs : List Char) : Option Word :=
  (wordFrom (fun _ => false) (cs.length + 1) cs).map (·.1)

def Word.assignment? (w : Word) : Option (List Char × Word) :=
  let name := w.takeWhile fun p => match p with
    | .text [c] false => isNameChar c
    | _ => false
  match w.drop name.length with
  | .text ['='] false :: value =>
    if isName (Word.bare name) then some (Word.bare name, value) else none
  | _ => none

end ElfFacts.Script
