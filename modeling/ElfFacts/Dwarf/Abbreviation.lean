import ElfFacts.Dwarf.Decoder
import Std.Data.HashMap

/-!
# Abbreviations

An abbreviation gives the tag of an entry and the names and forms of its attributes.
-/
namespace ElfFacts.Dwarf

structure AttributeFormat where
  name : Nat
  form : Nat
  /-- The value itself, where the form says that it stands here. -/
  constant : Option Int64 := none
  deriving DecidableEq, Repr

structure Abbreviation where
  code : Nat
  tag : Nat
  hasChildren : Bool
  attributes : List AttributeFormat
  deriving DecidableEq, Repr

abbrev AbbreviationTable := Std.HashMap Nat Abbreviation

def formIndirect : Nat := 0x16

def formImplicitConstant : Nat := 0x21

namespace Decoder

/-- A pair of zeros ends the attributes. -/
def attributeFormat? : Decoder (Option AttributeFormat) := do
  let name ← unsigned16
  let form ← unsigned16
  if name = 0 ∧ form = 0 then return none
  else if name = 0 ∨ form = 0 then fail .badAbbreviation
  else if form = formImplicitConstant then return some ⟨name, form, some (← signed)⟩
  else return some ⟨name, form, none⟩

def childrenFlag : Decoder Bool := do
  match ← octet with
  | 0 => return false
  | 1 => return true
  | _ => fail .badAbbreviation

/-- A zero code ends the table. -/
def abbreviation? : Decoder (Option Abbreviation) := do
  let code ← unsigned
  if code = 0 then return none
  let tag ← unsigned16
  if tag = 0 then fail .badAbbreviation
  let hasChildren ← childrenFlag
  let attributes ← untilNone attributeFormat?
  return some { code, tag, hasChildren, attributes := attributes.toList }

end Decoder

namespace AbbreviationTable

/-- No two abbreviations have one code. -/
def ofList : List Abbreviation → Except Fault AbbreviationTable
  | [] => .ok ∅
  | a :: rest => do
    let table ← ofList rest
    if table.contains a.code then .error .badAbbreviation else .ok (table.insert a.code a)

def readAt (section_ : Window) (start : Nat) : Except Fault AbbreviationTable := do
  let (found, _) ← (do Decoder.skip start; Decoder.untilNone Decoder.abbreviation?) section_
  ofList found.toList

end AbbreviationTable

end ElfFacts.Dwarf
