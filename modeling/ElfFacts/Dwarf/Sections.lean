import ElfFacts.Debug.Entry
import ElfFacts.Dwarf.Value
import ElfFacts.Text.Utf8

/-!
# Sections of debugging information

The entries refer to strings and addresses in other sections. A value whose string cannot be read
is described instead.
-/
namespace ElfFacts.Dwarf

/-- The contents of the sections; a section that is not there is empty. -/
structure Sections where
  big : Bool
  info : ByteArray := .empty
  abbreviations : ByteArray := .empty
  lines : ByteArray := .empty
  strings : ByteArray := .empty
  lineStrings : ByteArray := .empty
  stringOffsets : ByteArray := .empty
  addresses : ByteArray := .empty

structure TableBases where
  stringOffsets : Nat := 0
  addresses : Nat := 0

namespace Sections

def window (s : Sections) (contents : ByteArray) : Window := .ofSection contents s.big

def decodeAt {α : Type} (s : Sections) (contents : ByteArray) (start : Nat) (d : Decoder α) :
    Except Fault α := do
  let (a, _) ← (do Decoder.skip start; d) (s.window contents)
  return a

def stringAt (s : Sections) (contents : ByteArray) (start : Nat) : Except Fault ByteArray :=
  s.decodeAt contents start Decoder.terminated

/-- Decodes an element of a table; its distance from the base has 64 bits. -/
def elementAt {α : Type} (s : Sections) (contents : ByteArray) (base width index : Nat)
    (d : Decoder α) : Except Fault α :=
  s.decodeAt contents (base + index * width % UInt64.size) d

def indexedString (s : Sections) (e : Encoding) (bases : TableBases) (index : Nat) :
    Except Fault ByteArray := do
  let start ← s.elementAt s.stringOffsets bases.stringOffsets e.offsetSize index (Decoder.offset e)
  s.stringAt s.strings start

def addressAt (s : Sections) (e : Encoding) (bases : TableBases) (index : Nat) :
    Except Fault Nat :=
  s.elementAt s.addresses bases.addresses e.addressSize index (Decoder.number e.addressSize)

def string? (s : Sections) (e : Encoding) (bases : TableBases) : RawValue → Option ByteArray
  | .text octets => some octets
  | .stringRef n => (s.stringAt s.strings n).toOption
  | .lineStringRef n => (s.stringAt s.lineStrings n).toOption
  | .stringIndex n => (s.indexedString e bases n).toOption
  | _ => none

def value (s : Sections) (e : Encoding) (bases : TableBases) (v : RawValue) : Value :=
  match v with
  | .unitRef n => .unitRef (.ofNat n)
  | .infoRef n => .infoRef (.ofNat n)
  | .flag b => .flag b
  | .constant n => .unsigned (.ofNat n)
  | .signed n => .signed n
  | .language n => .text (languageName n)
  | v =>
    match s.string? e bases v with
    | some octets => .text (Utf8.lossy octets.data.toList)
    | none => .other (v.describe s.big)

end Sections

end ElfFacts.Dwarf
