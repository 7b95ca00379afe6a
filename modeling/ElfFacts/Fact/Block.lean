import ElfFacts.Fact
import ElfFacts.Path

/-!
# Blocks and documents

A block is a titled run of facts about one binary. The document of a main binary is a list of
blocks.
-/
namespace ElfFacts

structure Block where
  title : String
  facts : Array Fact := #[]
  deriving DecidableEq, Repr

namespace Block

def withPredicate (b : Block) (predicate : String) : List Fact :=
  b.facts.toList.filter (·.predicate = predicate)

def isEmpty (b : Block) : Bool := b.facts.isEmpty

end Block

structure Document where
  main : Path
  blocks : List Block
  deriving DecidableEq, Repr

namespace Document

def facts (d : Document) : List Fact := d.blocks.flatMap (·.facts.toList)

def count : List Block → Nat
  | [] => 0
  | b :: rest => b.facts.size + count rest

def factCount (d : Document) : Nat := count d.blocks

def withPredicate (d : Document) (predicate : String) : List Fact :=
  d.facts.filter (·.predicate = predicate)

theorem length_facts (d : Document) : d.facts.length = d.factCount := by
  unfold facts factCount
  induction d.blocks with
  | nil => rfl
  | cons b rest ih =>
    rw [List.flatMap_cons, List.length_append, ih, Array.length_toList, count]

end Document

end ElfFacts
