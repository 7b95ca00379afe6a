import ElfFacts.Dwarf.Decoder

/-!
# Unit headers

A header says how long its unit is, how its fields are encoded and where its abbreviations are.
Its entries follow up to the end of the unit.
-/
namespace ElfFacts.Dwarf

structure UnitHeader where
  start : Nat
  encoding : Encoding
  abbreviations : Nat
  entries : Window

namespace UnitHeader

def size (h : UnitHeader) : Nat := h.entries.stop - h.start

end UnitHeader

namespace Decoder

def typeFields (e : Encoding) : Nat → Decoder Unit
  | 1 | 3 => return ()
  | 4 | 5 => skip 8
  | 2 | 6 => do
    skip 8
    skip e.offsetSize
  | n => fail (.unknownUnitType n)

/-- The encoding, the place of the abbreviations and the type of a unit. Before version 5 there is
one type only. -/
def unitFields (wide : Bool) : Decoder (Encoding × Nat × Nat) := do
  let version ← number 2
  if 2 ≤ version ∧ version ≤ 4 then
    let abbreviations ← number (if wide then 8 else 4)
    let addressSize ← addressSize
    return (⟨wide, version, addressSize⟩, abbreviations, 1)
  else if version = 5 then
    let unitType ← octet
    let addressSize ← addressSize
    let abbreviations ← number (if wide then 8 else 4)
    return (⟨wide, version, addressSize⟩, abbreviations, unitType)
  else fail (.unknownVersion version)

/-- Takes a unit off the front of a section; nothing at its end. -/
def unitHeader? : Decoder (Option UnitHeader) := fun w =>
  if w.isEmpty then .ok (none, w)
  else do
    let ((length, wide), afterLength) ← initialLength w
    let (body, rest) ← take length afterLength
    let ((encoding, abbreviations, unitType), afterFields) ← unitFields wide body
    let ((), entries) ← typeFields encoding unitType afterFields
    return (some { start := w.position, encoding, abbreviations, entries }, rest)

end Decoder

end ElfFacts.Dwarf
