import ElfFacts.Json.Value
import ElfFacts.Text.Quoted

/-!
# Writing JSON

Every item and member stands on a line of its own, two blanks further in than what holds it. A list
or an object without contents stays on one line.
-/
namespace ElfFacts.Json

def escape (c : Char) : List Char :=
  if c = '"' then ['\\', '"']
  else if c = '\\' then ['\\', '\\']
  else if c = '\x08' then ['\\', 'b']
  else if c = '\x0c' then ['\\', 'f']
  else if c = '\n' then ['\\', 'n']
  else if c = '\r' then ['\\', 'r']
  else if c = '\t' then ['\\', 't']
  else if c.toNat < 0x20 then
    ['\\', 'u', '0', '0', Text.hexDigit (c.toNat / 16), Text.hexDigit (c.toNat % 16)]
  else [c]

def quote (s : String) : List Char := '"' :: (s.toList.flatMap escape ++ ['"'])

/-- A text that is not well formed is written as an empty one. -/
def textChars (s : JsonText) : List Char := quote (s.getD "")

def line (depth : Nat) : List Char := '\n' :: List.replicate (2 * depth) ' '

mutual

def chars (depth : Nat) : Json → List Char
  | .null => ['n', 'u', 'l', 'l']
  | .bool true => ['t', 'r', 'u', 'e']
  | .bool false => ['f', 'a', 'l', 's', 'e']
  | .number literal => literal
  | .text s => textChars s
  | .list [] => ['[', ']']
  | .list (j :: rest) =>
    '[' :: (line (depth + 1) ++ chars (depth + 1) j ++ itemChars (depth + 1) rest ++ line depth ++ [']'])
  | .object [] => ['\x7b', '\x7d']
  | .object ((name, j) :: rest) =>
    '\x7b' :: (line (depth + 1) ++ textChars name ++ [':', ' '] ++ chars (depth + 1) j ++
      memberChars (depth + 1) rest ++ line depth ++ ['\x7d'])

def itemChars (depth : Nat) : List Json → List Char
  | [] => []
  | j :: rest => ',' :: (line depth ++ chars depth j ++ itemChars depth rest)

def memberChars (depth : Nat) : List (JsonText × Json) → List Char
  | [] => []
  | (name, j) :: rest =>
    ',' :: (line depth ++ textChars name ++ [':', ' '] ++ chars depth j ++ memberChars depth rest)

end

def render (j : Json) : String := String.ofList (chars 0 j)

end ElfFacts.Json
