import ElfFacts.Identity
import Std.Data.HashSet

/-!
# Ledgers

A ledger remembers what a walk has reported about one binary: pairs of parent and child, visited
entries and declared languages. `Ledgers` keeps one ledger for every path.
-/
namespace ElfFacts

structure Ledger where
  pairs : Std.HashSet (Identity × Identity) := ∅
  /-- Index of the unit and of the entry in it. -/
  registry : Std.HashMap Identity (Nat × Nat) := ∅
  languages : List String := []
  sawCompileUnit : Bool := false
  deriving Inhabited

namespace Ledger

def hasChild (l : Ledger) (parent child : Identity) : Bool := l.pairs.contains (parent, child)

def addChild (l : Ledger) (parent child : Identity) : Ledger :=
  { l with pairs := l.pairs.insert (parent, child) }

/-- Adds a pair if it is new, and tells whether it is. -/
def recordChild (l : Ledger) (parent child : Identity) : Bool × Ledger :=
  if l.hasChild parent child then (false, l) else (true, l.addChild parent child)

def register (l : Ledger) (id : Identity) (place : Nat × Nat) : Ledger :=
  { l with registry := l.registry.insert id place }

def lookup? (l : Ledger) (id : Identity) : Option (Nat × Nat) := l.registry[id]?

def visited (l : Ledger) : Nat := l.registry.size

theorem recordChild_of_hasChild {l : Ledger} {p c : Identity} (h : l.hasChild p c = true) :
    l.recordChild p c = (false, l) := if_pos h

theorem recordChild_of_new {l : Ledger} {p c : Identity} (h : l.hasChild p c = false) :
    l.recordChild p c = (true, l.addChild p c) := if_neg (Bool.eq_false_iff.1 h)

theorem hasChild_addChild (l : Ledger) (p c p' c' : Identity) :
    (l.addChild p c).hasChild p' c' = ((p, c) == (p', c') || l.hasChild p' c') := by
  simp [hasChild, addChild]

end Ledger

deriving instance Hashable for Path.Part

structure Ledgers where
  partitions : Std.HashMap (List Path.Part) Ledger := ∅

namespace Ledgers

def ledger? (ls : Ledgers) (p : Path) : Option Ledger := ls.partitions[p.parts]?

def ledger (ls : Ledgers) (p : Path) : Ledger := (ls.ledger? p).getD {}

def put (ls : Ledgers) (p : Path) (l : Ledger) : Ledgers := ⟨ls.partitions.insert p.parts l⟩

theorem ledger?_put (ls : Ledgers) (p q : Path) (l : Ledger) :
    (ls.put p l).ledger? q = if p.parts = q.parts then some l else ls.ledger? q := by
  simp [ledger?, put, Std.HashMap.getElem?_insert]

end Ledgers

end ElfFacts
