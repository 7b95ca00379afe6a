import ElfFacts.Debug.Unit

/-!
# Units from a depth first reading

A reading meets the entries of a unit one after another and knows of each how much deeper it lies
than the one before. That gives back the tree. An entry is encoded up to the next one, less the
octets that close lists of children in between, one for each list.
-/
namespace ElfFacts

structure StreamEntry where
  /-- The depth of this entry less that of the one before. -/
  change : Int
  offset : UInt64
  tag : String
  attributes : List (String × Value)
  /-- Whether a list of children follows, which may be empty. -/
  hasChildren : Bool
  deriving DecidableEq, Repr

/-- The last entry met, whose size is not known before the next one is. -/
structure OpenEntry where
  index : Nat
  offset : UInt64
  hasChildren : Bool
  deriving DecidableEq, Repr

/-- A unit that is being read: `above` holds the last entry met and the entries above it, the root
first. -/
structure UnitReading where
  unit : DebugUnit
  above : List Nat := []
  depth : Int := 0
  last? : Option OpenEntry := none

namespace UnitReading

def start (offset : UInt64) : UnitReading := { unit := .empty offset }

/-- The octets from one offset to another less those that close lists; none if that is negative. -/
def sizeBetween (start stop : UInt64) (closing : Nat) : UInt64 :=
  UInt64.ofNat (stop.toNat - start.toNat - closing)

/-- How many lists close before an entry that lies `change` deeper. -/
def closings (hasChildren : Bool) (change : Int) : Nat := (hasChildren.toNat - change).toNat

def closeLast (r : UnitReading) (stop : UInt64) (closing : OpenEntry → Nat) : DebugUnit :=
  match r.last? with
  | none => r.unit
  | some l => r.unit.setSize l.index (sizeBetween l.offset stop (closing l))

def step (r : UnitReading) (e : StreamEntry) : UnitReading :=
  let unit := r.closeLast e.offset fun l => closings l.hasChildren e.change
  let depth := r.depth + e.change
  let above := r.above.take depth.toNat
  let index := unit.entries.size
  { unit := unit.push above.getLast? e.offset e.tag e.attributes
    above := above ++ [index]
    depth := depth
    last? := some ⟨index, e.offset, e.hasChildren⟩ }

def finish (r : UnitReading) (stop : UInt64) : DebugUnit :=
  r.closeLast stop fun l => r.depth.toNat + l.hasChildren.toNat

end UnitReading

/-- The unit that a reading comes to, whose last octet stands before `stop`. -/
def DebugUnit.ofStream (offset stop : UInt64) (entries : List StreamEntry) : DebugUnit :=
  (entries.foldl UnitReading.step (UnitReading.start offset)).finish stop

end ElfFacts
