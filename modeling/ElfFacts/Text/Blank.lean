/-!
# White space, words and lines

White space is the Unicode property. Lines end at a line feed, with or without a carriage return
before it.
-/
namespace ElfFacts.Text

def isBlank (c : Char) : Bool :=
  let n := c.toNat
  decide ((9 ≤ n ∧ n ≤ 13) ∨ n = 0x20 ∨ n = 0x85 ∨ n = 0xA0 ∨ n = 0x1680 ∨
    (0x2000 ≤ n ∧ n ≤ 0x200A) ∨ n = 0x2028 ∨ n = 0x2029 ∨ n = 0x202F ∨ n = 0x205F ∨ n = 0x3000)

def trim (cs : List Char) : List Char :=
  ((cs.dropWhile isBlank).reverse.dropWhile isBlank).reverse

def firstWord? (cs : List Char) : Option (List Char) :=
  match cs.dropWhile isBlank with
  | [] => none
  | c :: r => some (c :: r.takeWhile fun d => !isBlank d)

def splitFeeds : List Char → List (List Char)
  | [] => [[]]
  | c :: r =>
    if c = '\n' then [] :: splitFeeds r
    else match splitFeeds r with
      | [] => [[c]]
      | line :: rest => (c :: line) :: rest

def dropReturn (line : List Char) : List Char :=
  if line.getLast? = some '\r' then line.dropLast else line

/-- The lines of a text. A carriage return belongs to the line end only before a line feed, and a
text that ends in a line feed has no line after it. -/
def lines (cs : List Char) : List (List Char) :=
  let pieces := splitFeeds cs
  let ended := pieces.dropLast.map dropReturn
  match pieces.getLast? with
  | none => ended
  | some [] => ended
  | some last => ended ++ [last]

end ElfFacts.Text
