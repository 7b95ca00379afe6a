import ElfFacts.Fact.Block
import ElfFacts.Files.Fault

/-!
# Writing facts line by line

Headings and facts become lines, and lines go to a sink that may be full after some number of
octets. The first fault is kept, nothing is written after it, and it is reported at the end.
-/
namespace ElfFacts

/-- A line of a fact file; `isFact` tells facts from headings. -/
structure Line where
  text : String
  isFact : Bool
  deriving DecidableEq, Repr

namespace Line

def rule : String :=
  "%----------------------------------------------------------------------------"

def ofFact (f : Fact) : Line := ⟨f.render, true⟩

def comment (text : String) : Line := ⟨"% " ++ text, false⟩

def title (text : String) : List Line := [⟨rule, false⟩, comment text, ⟨rule, false⟩]

def heading (text : String) : List Line := [⟨"", false⟩, comment text]

def octets (l : Line) : ByteArray := (l.text ++ "\n").toUTF8

end Line

/-- An empty block leaves no heading. -/
def Block.lines (b : Block) : List Line :=
  if b.isEmpty then [] else Line.heading b.title ++ b.facts.toList.map Line.ofFact

def Document.lines (d : Document) : List Line :=
  Line.title ("ABI facts for " ++ d.main.display) ++ d.blocks.flatMap Block.lines

inductive Item where
  | title (text : String)
  | heading (text : String)
  | fact (f : Fact)
  | block (b : Block)
  | document (d : Document)

def Item.lines : Item → List Line
  | .title text => Line.title text
  | .heading text => Line.heading text
  | .fact f => [Line.ofFact f]
  | .block b => b.lines
  | .document d => d.lines

/-- Where the octets go: `room` is how many of them are accepted before `full` is reported, and
`onFlush` is what flushing reports. -/
structure Sink where
  room : Option Nat := none
  full : Fault := .other "disk full"
  onFlush : Option Fault := none

structure Sheet where
  sink : Sink := {}
  accepted : ByteArray := .empty
  written : Nat := 0
  fault : Option Fault := none

namespace Sheet

/-- As much of the octets as there is room for, and whether that is all of them. -/
def offer (s : Sheet) (octets : ByteArray) : ByteArray × Bool :=
  match s.sink.room with
  | none => (octets, true)
  | some room =>
    let left := room - s.accepted.size
    if octets.size ≤ left then (octets, true) else (octets.extract 0 left, false)

def writeLine (s : Sheet) (l : Line) : Sheet :=
  match s.fault with
  | some _ => s
  | none =>
    let (octets, complete) := s.offer l.octets
    if complete then
      { s with accepted := s.accepted ++ octets, written := s.written + if l.isFact then 1 else 0 }
    else { s with accepted := s.accepted ++ octets, fault := some s.sink.full }

def writeLines (s : Sheet) (lines : List Line) : Sheet := lines.foldl writeLine s

def write (s : Sheet) (i : Item) : Sheet := s.writeLines i.lines

/-- The fault kept from writing, or else the one from flushing. -/
def finish (s : Sheet) : Except Fault ByteArray :=
  match s.fault, s.sink.onFlush with
  | some fault, _ => .error fault
  | none, some fault => .error fault
  | none, none => .ok s.accepted

@[simp] theorem writeLines_nil (s : Sheet) : s.writeLines [] = s := rfl

@[simp] theorem writeLines_cons (s : Sheet) (l : Line) (ls : List Line) :
    s.writeLines (l :: ls) = (s.writeLine l).writeLines ls := rfl

theorem writeLines_append (s : Sheet) (ls ls' : List Line) :
    s.writeLines (ls ++ ls') = (s.writeLines ls).writeLines ls' := List.foldl_append

theorem writeLine_of_fault {s : Sheet} {fault : Fault} (h : s.fault = some fault) (l : Line) :
    s.writeLine l = s := by
  simp [writeLine, h]

end Sheet

end ElfFacts
