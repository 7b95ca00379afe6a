import ElfFacts.Debug.Entry
import Std.Data.HashMap

/-!
# Units

A unit holds its entries in the order in which they were read, with an index from offsets to
entries. An entry is added below an entry that is already there, or as a root.
-/
namespace ElfFacts

structure DebugUnit where
  /-- Where the header of the unit stands in the section. -/
  offset : UInt64
  entries : Array DebugEntry := #[]
  byOffset : Std.HashMap UInt64 Nat := ∅
  deriving Inhabited

namespace DebugUnit

def empty (offset : UInt64) : DebugUnit := { offset }

/-- A parent that an entry can be added below. The new entry itself counts, too. -/
def accepts (u : DebugUnit) : Option Nat → Bool
  | none => true
  | some p => p ≤ u.entries.size

def addChild (index : Nat) (e : DebugEntry) : DebugEntry :=
  { e with children := e.children.push index }

/-- The unit with one more entry, whose index is the number of entries before. Of two entries with
one offset, the later is found by it. -/
def push (u : DebugUnit) (parent : Option Nat) (offset : UInt64) (tag : String)
    (attributes : List (String × Value)) : DebugUnit :=
  let entries := u.entries.push { offset, tag, attributes, parent }
  { u with
    entries := match parent with
      | none => entries
      | some p => entries.modify p (addChild u.entries.size)
    byOffset := u.byOffset.insert offset u.entries.size }

def push? (u : DebugUnit) (parent : Option Nat) (offset : UInt64) (tag : String)
    (attributes : List (String × Value)) : Option DebugUnit :=
  if u.accepts parent then some (u.push parent offset tag attributes) else none

def setSize (u : DebugUnit) (index : Nat) (size : UInt64) : DebugUnit :=
  { u with entries := u.entries.modify index fun e => { e with size := some size } }

def get? (u : DebugUnit) (index : Nat) : Option DebugEntry := u.entries[index]?

def indexOf? (u : DebugUnit) (offset : UInt64) : Option Nat := u.byOffset[offset]?

def roots (u : DebugUnit) : List Nat :=
  (List.range u.entries.size).filter fun i => (u.entries[i]?.bind (·.parent)).isNone

@[simp] theorem size_empty (offset : UInt64) : (empty offset).entries.size = 0 := rfl

theorem size_push (u : DebugUnit) (parent : Option Nat) (offset : UInt64) (tag : String)
    (attributes : List (String × Value)) :
    (u.push parent offset tag attributes).entries.size = u.entries.size + 1 := by
  cases parent <;> simp [push]

theorem size_setSize (u : DebugUnit) (index : Nat) (size : UInt64) :
    (u.setSize index size).entries.size = u.entries.size := by
  simp [setSize]

end DebugUnit

end ElfFacts
