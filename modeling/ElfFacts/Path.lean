import ElfFacts.Text.Utf8

/-!
# Paths

A path is a row of octets. Two paths are the same place in a listing when their `parts` agree:
repeated separators, inner dots and a trailing separator do not count, but a leading dot and steps
upward do.
-/
namespace ElfFacts

structure Path where
  octets : List UInt8
  deriving DecidableEq, Repr, Inhabited

namespace Path

def slash : UInt8 := 0x2F

def dot : UInt8 := 0x2E

inductive Part where
  | root
  | current
  | up
  | name (octets : List UInt8)
  deriving DecidableEq, Repr

def ofString (s : String) : Path := ⟨Utf8.encode s⟩

/-- The path as text, ill-formed pieces shown as U+FFFD. -/
def display (p : Path) : String := Utf8.lossy p.octets

def isAbsolute (p : Path) : Bool := p.octets.head? = some slash

def splitSlashes : List UInt8 → List (List UInt8)
  | [] => [[]]
  | b :: r =>
    if b = slash then [] :: splitSlashes r
    else match splitSlashes r with
      | [] => [[b]]
      | piece :: rest => (b :: piece) :: rest

def joinSlashes : List (List UInt8) → List UInt8
  | [] => []
  | [piece] => piece
  | piece :: rest => piece ++ slash :: joinSlashes rest

def lead (p : Path) : List UInt8 × List UInt8 :=
  match p.octets with
  | [] => ([], [])
  | b :: r =>
    if b = slash then ([b], r)
    else if b = dot ∧ (r = [] ∨ r.head? = some slash) then ([b], r)
    else ([], b :: r)

def isFiller (piece : List UInt8) : Bool := piece = [] || piece = [dot]

def partOf (piece : List UInt8) : Part := if piece = [dot, dot] then .up else .name piece

def parts (p : Path) : List Part :=
  let start := match p.lead.1 with
    | [] => []
    | b :: _ => if b = slash then [.root] else [.current]
  start ++ ((splitSlashes p.lead.2).filter fun s => !isFiller s).map partOf

def same (p q : Path) : Bool := p.parts = q.parts

/-- The pieces after the lead, without fillers at the end. -/
def trimmed (pieces : List (List UInt8)) : List (List UInt8) :=
  (pieces.reverse.dropWhile isFiller).reverse

/-- The path without its last part, spelled as before. -/
def parent? (p : Path) : Option Path :=
  let pieces := trimmed (splitSlashes p.lead.2)
  if pieces = [] then if p.lead.1 = [dot] then some ⟨[]⟩ else none
  else some ⟨p.lead.1 ++ joinSlashes (trimmed pieces.dropLast)⟩

def fileName? (p : Path) : Option (List UInt8) :=
  match (trimmed (splitSlashes p.lead.2)).getLast? with
  | none => none
  | some piece => if piece = [dot, dot] then none else some piece

/-- What follows the last dot of the file name, when something precedes that dot. -/
def extension? (p : Path) : Option (List UInt8) :=
  match p.fileName? with
  | none => none
  | some name =>
    let tail := name.reverse.takeWhile (· != dot)
    if tail.length + 1 < name.length then some tail.reverse else none

/-- `q` seen from `p`; an absolute `q` stands for itself. -/
def join (p q : Path) : Path :=
  if q.isAbsolute then q
  else if p.octets = [] ∨ p.octets.getLast? = some slash then ⟨p.octets ++ q.octets⟩
  else ⟨p.octets ++ slash :: q.octets⟩

/-- The file name as text, and the whole path where there is no readable file name. -/
def label (p : Path) : String :=
  match p.fileName?.bind Utf8.strictString with
  | some name => name
  | none => p.display

def distinctFrom (seen : List (List Part)) : List Path → List Path
  | [] => []
  | p :: rest =>
    if p.parts ∈ seen then distinctFrom seen rest
    else p :: distinctFrom (p.parts :: seen) rest

def distinct (paths : List Path) : List Path := distinctFrom [] paths

end Path

end ElfFacts
