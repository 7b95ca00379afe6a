import ElfFacts.Script.Word

/-!
# Tokens of a script

Words, signs and line ends. The text of a document that is given in the script follows the line
that asks for it, and takes the place of the word that ends it.
-/
namespace ElfFacts.Script

inductive Token where
  | word (w : Word)
  | sign (cs : List Char)
  | newLine
  /-- The target follows as a word. -/
  | redirect (stream : Nat) (direction : Direction)
  | unclosed
  deriving DecidableEq, Repr

/-- A document whose text has not been met yet. -/
structure Awaited where
  /-- The place of the word that its text is put at. -/
  place : Nat
  final : Final
  literal : Bool

def fillDocument (state : Array Token × List Char) (a : Awaited) : Array Token × List Char :=
  let (tokens, cs) := state
  let (text, rest) := documentLines a.final (cs.length + 1) cs
  let token :=
    if a.literal then Token.word [.text text true]
    else (quotedText? .document text).elim Token.unclosed Token.word
  (tokens.setIfInBounds a.place token, rest)

/-- A redirection mark, the direction it stands for, and the stream that it is about. -/
def marks : List (List Char × Direction × Nat) := [
  (['<', '<'], .document, 0), (['<', '&'], .duplicate, 0), (['<', '>'], .input, 0), (['<'], .input, 0),
  (['>', '>'], .append, 1), (['>', '&'], .duplicate, 1), (['>', '|'], .output, 1), (['>'], .output, 1)]

/-- Signs; of two that fit the longer stands first. -/
def signs : List (List Char) :=
  [[';', ';'], [';'], ['&', '&'], ['&'], ['|', '|'], ['|'], ['('], [')']]

def tokensFrom : (fuel : Nat) → Array Token → List Awaited → List Char → Array Token
  | 0, tokens, _, _ => tokens
  | _ + 1, tokens, awaited, [] => (awaited.foldl fillDocument (tokens, [])).1
  | fuel + 1, tokens, awaited, c :: rest =>
    if isBlank c then tokensFrom fuel tokens awaited rest
    else if c = '\\' ∧ rest.head? = some '\n' then tokensFrom fuel tokens awaited (rest.drop 1)
    else if c = '#' then tokensFrom fuel tokens awaited (rest.dropWhile (· ≠ '\n'))
    else if c = '\n' then
      let (tokens, rest) := awaited.foldl fillDocument (tokens.push .newLine, rest)
      tokensFrom fuel tokens [] rest
    else
      let cs := c :: rest
      match signs.find? (·.isPrefixOf cs) with
      | some s => tokensFrom fuel (tokens.push (.sign s)) awaited (cs.drop s.length)
      | none =>
        let digits := cs.takeWhile Char.isDigit
        let marked := cs.drop digits.length
        match marks.find? (·.1.isPrefixOf marked) with
        | some (mark, direction, usual) =>
          let tokens := tokens.push (.redirect ((number? digits).getD usual) direction)
          let rest := marked.drop mark.length
          if direction = .document then
            let tabless := rest.head? = some '-'
            let rest := (if tabless then rest.drop 1 else rest).dropWhile isBlank
            match word? rest with
            | none => tokens.push .unclosed
            | some (w, rest) =>
              tokensFrom fuel (tokens.push (.word w))
                (awaited ++ [⟨tokens.size, ⟨w.bare, tabless⟩, w.isQuoted⟩]) rest
          else tokensFrom fuel tokens awaited rest
        | none =>
          match word? cs with
          | none => tokens.push .unclosed
          | some (w, rest) => tokensFrom fuel (tokens.push (.word w)) awaited rest

def tokens (cs : List Char) : List Token := (tokensFrom (cs.length + 1) #[] [] cs).toList

end ElfFacts.Script
