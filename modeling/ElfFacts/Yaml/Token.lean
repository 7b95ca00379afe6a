import ElfFacts.Yaml.Scalar

/-!
# Tokens

Besides marks and scalars, there are tokens for names and tags and for directives, and tokens that
say where the indentation opens and closes a collection.
-/
namespace ElfFacts.Yaml

inductive Token where
  | versionDirective (major minor : Nat)
  | tagDirective (handle start : List Char)
  | documentStart
  | documentEnd
  | streamEnd
  | blockSequence
  | blockMapping
  | blockEnd
  | openSequence
  | closeSequence
  | openMapping
  | closeMapping
  | blockEntry
  | flowEntry
  | key
  | value
  | alias (name : List Char)
  | anchor (name : List Char)
  | tag (handle suffix : List Char)
  | scalar (text : List Char) (plain : Bool)
  deriving DecidableEq, Repr

/-! ## Names -/

def endsName (c : Char) : Bool :=
  isBlank c || isBreak c || ['?', ':', ',', ']', '\x7d', '%', '@', '`'].contains c

def markedName : Reader (List Char) := do
  Reader.skip 1
  let name ← Reader.takeWhile isNameChar
  if name = [] then Reader.fail
  else if (← Reader.head?).elim true endsName then return name
  else Reader.fail

/-! ## Tags -/

def octetWidth? (octet : Nat) : Option Nat :=
  if octet < 0x80 then some 1
  else if octet / 32 = 6 then some 2
  else if octet / 16 = 14 then some 3
  else if octet / 8 = 30 then some 4
  else none

def uriOctet : Reader Nat := do
  match ← Reader.head?, (← Reader.at? 1).bind hexValue?, (← Reader.at? 2).bind hexValue? with
  | some '%', some high, some low =>
    Reader.skip 3
    return high * 16 + low
  | _, _, _ => Reader.fail

/-- Octets that go on a character; each is kept as the character with its number. -/
def uriTail : Nat → Reader (List Char)
  | 0 => return []
  | n + 1 => do
    let octet ← uriOctet
    if octet / 64 = 2 then return Char.ofNat octet :: (← uriTail n) else Reader.fail

def uriEscape : Reader (List Char) := do
  let octet ← uriOctet
  match octetWidth? octet with
  | none => Reader.fail
  | some width => return Char.ofNat octet :: (← uriTail (width - 1))

def isUriChar (verbatim : Bool) (c : Char) : Bool :=
  isNameChar c ||
    [';', '/', '?', ':', '@', '&', '=', '+', '$', '.', '!', '~', '*', '\'', '(', ')'].contains c ||
    (verbatim && [',', '[', ']'].contains c)

def uriFrom (verbatim : Bool) : (fuel : Nat) → List Char → Reader (List Char)
  | 0, text => return text
  | fuel + 1, text => do
    match ← Reader.head? with
    | some c =>
      if c = '%' then uriFrom verbatim fuel (text ++ (← uriEscape))
      else if isUriChar verbatim c then
        Reader.skip 1
        uriFrom verbatim fuel (text ++ [c])
      else return text
    | none => return text

def tagUri (verbatim : Bool) (start : List Char) : Reader (List Char) := do
  let text ← uriFrom verbatim ((← get).rest.length + 1) (start.drop 1)
  if start = [] ∧ text = [] then Reader.fail else return text

def tagHandle : Reader (List Char) := do
  if (← Reader.head?) ≠ some '!' then Reader.fail
  else
    Reader.skip 1
    let name ← Reader.takeWhile isNameChar
    if (← Reader.head?) = some '!' then
      Reader.skip 1
      return '!' :: (name ++ ['!'])
    else return '!' :: name

def isFullHandle (handle : List Char) : Bool := 1 < handle.length && handle.getLast? = some '!'

/-- The handle and the suffix of a tag. A tag in angles has no handle, and a lone mark is its own
suffix. -/
def tagParts : Reader (List Char × List Char) := do
  if (← Reader.at? 1) = some '<' then
    Reader.skip 2
    let suffix ← tagUri true []
    if (← Reader.head?) = some '>' then
      Reader.skip 1
      return ([], suffix)
    else Reader.fail
  else
    let handle ← tagHandle
    if isFullHandle handle then return (handle, ← tagUri false [])
    else
      let suffix ← tagUri false handle
      if suffix = [] then return ([], ['!']) else return (['!'], suffix)

def tag (flow : Bool) : Reader Token := do
  let (handle, suffix) ← tagParts
  if flow ∧ (← Reader.head?) = some ',' then return .tag handle suffix
  else
    Reader.expectEnd
    return .tag handle suffix

/-! ## Directives -/

def longestNumber : Nat := 9

def versionNumber : Reader Nat := do
  let digits ← Reader.takeWhile isDigit
  if digits = [] ∨ longestNumber < digits.length then Reader.fail
  else return Nat.ofDigitChars 10 digits 0

def versionDirective : Reader Token := do
  Reader.skipBlanks
  let major ← versionNumber
  if (← Reader.head?) ≠ some '.' then Reader.fail
  else
    Reader.skip 1
    return .versionDirective major (← versionNumber)

def expectBlank : Reader Unit := do
  if (← Reader.head?).elim false isBlank then Reader.skipBlanks else Reader.fail

def tagDirective : Reader Token := do
  Reader.skipBlanks
  let handle ← tagHandle
  if handle ≠ ['!'] ∧ !isFullHandle handle then Reader.fail
  else
    expectBlank
    let start ← tagUri true []
    Reader.expectEnd
    return .tagDirective handle start

def directive : Reader Token := do
  Reader.skip 1
  let name ← Reader.takeWhile isNameChar
  Reader.expectEnd
  let token ←
    if name = "YAML".toList then versionDirective
    else if name = "TAG".toList then tagDirective
    else Reader.fail
  Reader.restOfLine
  return token

end ElfFacts.Yaml
