import ElfFacts.Debug.Stream
import ElfFacts.Dwarf.LineHeader
import ElfFacts.Dwarf.Sections
import ElfFacts.Dwarf.UnitHeader

/-!
# Units of a section

The units of a section follow one another. Every one of them has to be readable: its header, its
abbreviations, its entries, the line program header that its root points at, and the address that
its root starts at.
-/
namespace ElfFacts.Dwarf

/-- An entry before its strings are looked up. -/
structure RawEntry where
  change : Int
  /-- Counted from the start of the unit. -/
  offset : Nat
  tag : Nat
  hasChildren : Bool
  attributes : List (Nat × RawValue)

namespace Decoder

def namedValue (e : Encoding) (f : AttributeFormat) : Decoder (Nat × RawValue) := do
  return (f.name, (← rawValue e f.name f.form f.constant).meaning f.name)

/-- Reads entries to the end. A zero code closes a list of children. `change` is how much deeper
the next entry lies than the last one. -/
def entriesFrom (e : Encoding) (table : AbbreviationTable) (start : Nat) :
    (fuel : Nat) → (change : Int) → Array RawEntry → Decoder (Array RawEntry)
  | 0, _, _ => fail .endOfData
  | fuel + 1, change, found => do
    let here ← get
    if here.isEmpty then return found
    let code ← unsigned
    if code = 0 then entriesFrom e table start fuel (change - 1) found
    else
      match table[code]? with
      | none => fail (.unknownAbbreviation code)
      | some a =>
        let attributes ← a.attributes.mapM (namedValue e)
        let entry : RawEntry :=
          { change, offset := here.position - start, tag := a.tag, hasChildren := a.hasChildren,
            attributes }
        entriesFrom e table start fuel a.hasChildren.toNat (found.push entry)

/-- All entries of a unit. Every entry takes an octet, so the fuel is enough. -/
def entries (e : Encoding) (table : AbbreviationTable) (start : Nat) : Decoder (Array RawEntry) := do
  entriesFrom e table start ((← left) + 1) 0 #[]

end Decoder

namespace RawEntry

def lastUnder? {α : Type} (r : RawEntry) (names : List Nat) (accept : RawValue → Option α) :
    Option α :=
  (r.attributes.filterMap fun (name, v) => if names.contains name then accept v else none).getLast?

def pointer? (role : OffsetRole) : RawValue → Option Nat
  | .pointer role' n => if role' = role then some n else none
  | _ => none

def lineProgram? (r : RawEntry) : Option Nat := r.lastUnder? [0x10] (pointer? .line)

def bases (r : RawEntry) : TableBases where
  stringOffsets := (r.lastUnder? [0x72] (pointer? .stringOffsets)).getD 0
  addresses := (r.lastUnder? [0x73, 0x2133] (pointer? .addresses)).getD 0

def startIndex? (r : RawEntry) : Option Nat :=
  match r.lastUnder? [0x11] some with
  | some (.addressIndex n) => some n
  | _ => none

end RawEntry

namespace Sections

/-- The first entry, whatever number of closed lists stands before it. -/
def root (entries : Array RawEntry) : Except Fault RawEntry :=
  match entries[0]? with
  | some r => .ok r
  | none => .error .missingRoot

def streamEntry (s : Sections) (e : Encoding) (bases : TableBases) (r : RawEntry) : StreamEntry where
  change := r.change
  offset := .ofNat r.offset
  tag := tagName r.tag
  attributes := r.attributes.map fun (name, v) => (attributeName name, s.value e bases v)
  hasChildren := r.hasChildren

def checkRoot (s : Sections) (e : Encoding) (r : RawEntry) : Except Fault Unit := do
  if let some start := r.lineProgram? then
    s.decodeAt s.lines start Decoder.lineHeader
  if let some index := r.startIndex? then
    let _ ← s.addressAt e r.bases index

def unit (s : Sections) (h : UnitHeader) : Except Fault DebugUnit := do
  let table ← AbbreviationTable.readAt (s.window s.abbreviations) h.abbreviations
  let (entries, _) ← Decoder.entries h.encoding table h.start h.entries
  let root ← root entries
  s.checkRoot h.encoding root
  let stream := entries.toList.map (s.streamEntry h.encoding root.bases)
  return .ofStream (.ofNat h.start) (.ofNat h.size) stream

def units (s : Sections) : Except Fault (Array DebugUnit) := do
  let (headers, _) ← Decoder.untilNone Decoder.unitHeader? (s.window s.info)
  headers.mapM s.unit

end Sections

end ElfFacts.Dwarf
