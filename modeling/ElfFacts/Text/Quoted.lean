import ElfFacts.Text.Lowercase
import ElfFacts.Text.PrintTable

/-!
# Quoted text and numbers in base sixteen

A quoted text shows every character on one line: quotes, backslashes and the usual controls are
escaped by a letter, characters without a form of their own by their code point.
-/
namespace ElfFacts.Text

def hexDigits (n : Nat) : List Char := Nat.toDigits 16 n

def hex (n : Nat) : String := String.ofList ('0' :: 'x' :: hexDigits n)

def hexDigit (n : Nat) : Char := Nat.digitChar n

def hexOctets (octets : List UInt8) : String :=
  String.ofList (octets.flatMap fun b => [hexDigit (b.toNat / 16), hexDigit (b.toNat % 16)])

def isInvisible (c : Char) : Bool := inRanges invisibleRanges c

def isExtending (c : Char) : Bool := inRanges extendingRanges c

def escapeChar (c : Char) : List Char :=
  if c = '\x00' then ['\\', '0']
  else if c = '\t' then ['\\', 't']
  else if c = '\r' then ['\\', 'r']
  else if c = '\n' then ['\\', 'n']
  else if c = '"' then ['\\', '"']
  else if c = '\\' then ['\\', '\\']
  else if 0x20 ≤ c.toNat ∧ c.toNat < 0x7F then [c]
  else if isExtending c || isInvisible c then
    ['\\', 'u', '\x7b'] ++ hexDigits c.toNat ++ ['\x7d']
  else [c]

def quotedChars (cs : List Char) : List Char := '"' :: (cs.flatMap escapeChar ++ ['"'])

def quoted (s : String) : String := String.ofList (quotedChars s.toList)

end ElfFacts.Text
